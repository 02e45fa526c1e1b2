import AssetAccess.Account.KeyPair
import AssetAccess.Account.KeyText
import AssetAccess.Account.Ownership
import AssetAccess.Account.Signing
import AssetAccess.Action
import AssetAccess.Auth.CanonicalRequest
import AssetAccess.Auth.Coverage
import AssetAccess.Auth.Credentials
import AssetAccess.Auth.CredentialsJson
import AssetAccess.Auth.Description
import AssetAccess.Auth.NameSet
import AssetAccess.Auth.Query
import AssetAccess.Auth.SignOptions
import AssetAccess.Auth.Signer
import AssetAccess.Auth.Token
import AssetAccess.Auth.Verifier
import AssetAccess.Client.Call
import AssetAccess.Client.Delivery
import AssetAccess.Client.Envelope
import AssetAccess.Client.Settings
import AssetAccess.Curve.Der
import AssetAccess.Curve.Modular
import AssetAccess.Curve.Octets
import AssetAccess.Curve.Point
import AssetAccess.Curve.SecretNumber
import AssetAccess.Curve.Signature
import AssetAccess.Digest.Block
import AssetAccess.Digest.Hmac
import AssetAccess.Digest.Md5
import AssetAccess.Digest.Sha256
import AssetAccess.Error
import AssetAccess.Http.Fields
import AssetAccess.Http.Request
import AssetAccess.Http.Target
import AssetAccess.Http.Token
import AssetAccess.Identifier.ContentHash
import AssetAccess.Identifier.Draws
import AssetAccess.Identifier.Generator
import AssetAccess.Identifier.KeyStream
import AssetAccess.Identifier.RandomSource
import AssetAccess.Json.NumberText
import AssetAccess.Json.Record
import AssetAccess.Json.StringText
import AssetAccess.Json.Tree
import AssetAccess.Json.Value
import AssetAccess.Log
import AssetAccess.Proofs.Account.KeyNumber
import AssetAccess.Proofs.Account.KeyRecord
import AssetAccess.Proofs.Account.KeyText
import AssetAccess.Proofs.Account.PrivateKey
import AssetAccess.Proofs.Account.Signing
import AssetAccess.Proofs.Account.Verification
import AssetAccess.Proofs.Action
import AssetAccess.Proofs.Auth.Authorization
import AssetAccess.Proofs.Auth.Binding
import AssetAccess.Proofs.Auth.CanonicalPath
import AssetAccess.Proofs.Auth.CanonicalRequest
import AssetAccess.Proofs.Auth.Coverage
import AssetAccess.Proofs.Auth.CoveredText
import AssetAccess.Proofs.Auth.Credentials
import AssetAccess.Proofs.Auth.Indifference
import AssetAccess.Proofs.Auth.Query
import AssetAccess.Proofs.Auth.RoundTrip
import AssetAccess.Proofs.Auth.Secrecy
import AssetAccess.Proofs.Auth.SignedDate
import AssetAccess.Proofs.Auth.Signer
import AssetAccess.Proofs.Auth.Token
import AssetAccess.Proofs.Auth.TokenReading
import AssetAccess.Proofs.Auth.Verdict
import AssetAccess.Proofs.Client.Answer
import AssetAccess.Proofs.Client.Build
import AssetAccess.Proofs.Client.Delivery
import AssetAccess.Proofs.Client.Endpoint
import AssetAccess.Proofs.Client.Envelope
import AssetAccess.Proofs.Client.Environment
import AssetAccess.Proofs.Client.Grant
import AssetAccess.Proofs.Client.Outcome
import AssetAccess.Proofs.Client.Receipt
import AssetAccess.Proofs.Client.Secrecy
import AssetAccess.Proofs.Client.Settings
import AssetAccess.Proofs.Client.Warnings
import AssetAccess.Proofs.Curve.Der
import AssetAccess.Proofs.Curve.Generator
import AssetAccess.Proofs.Curve.Group
import AssetAccess.Proofs.Curve.Modular
import AssetAccess.Proofs.Curve.Octets
import AssetAccess.Proofs.Curve.Prime
import AssetAccess.Proofs.Curve.Signature
import AssetAccess.Proofs.Digest.ByteOrder
import AssetAccess.Proofs.Digest.Hmac
import AssetAccess.Proofs.Http.Fields
import AssetAccess.Proofs.Http.Target
import AssetAccess.Proofs.Identifier.Generator
import AssetAccess.Proofs.Identifier.PackedId
import AssetAccess.Proofs.Identifier.RandomId
import AssetAccess.Proofs.Identifier.RandomSource
import AssetAccess.Proofs.Identifier.Segment
import AssetAccess.Proofs.Identifier.Session
import AssetAccess.Proofs.Json.NumberText
import AssetAccess.Proofs.Json.Record
import AssetAccess.Proofs.Json.StringText
import AssetAccess.Proofs.Json.Tree
import AssetAccess.Proofs.Json.Value
import AssetAccess.Proofs.Json.Writing
import AssetAccess.Proofs.Records
import AssetAccess.Proofs.RunAlike
import AssetAccess.Proofs.Sequence
import AssetAccess.Proofs.Text.Blank
import AssetAccess.Proofs.Text.ByteOrder
import AssetAccess.Proofs.Text.Decimal
import AssetAccess.Proofs.Text.Form
import AssetAccess.Proofs.Text.Hex
import AssetAccess.Proofs.Text.Percent
import AssetAccess.Proofs.Text.Pieces
import AssetAccess.Proofs.Text.Utf8
import AssetAccess.Proofs.Time.Calendar
import AssetAccess.Proofs.Time.SignDate
import AssetAccess.Proofs.Url.Address
import AssetAccess.Proofs.Url.Authority
import AssetAccess.Proofs.Url.Domain
import AssetAccess.Proofs.Url.Encoding
import AssetAccess.Proofs.Url.Host
import AssetAccess.Proofs.Url.Ipv4
import AssetAccess.Proofs.Url.Ipv6
import AssetAccess.Proofs.Url.Path
import AssetAccess.Text.Ascii
import AssetAccess.Text.Blank
import AssetAccess.Text.CharClass
import AssetAccess.Text.CombiningClass
import AssetAccess.Text.Composition
import AssetAccess.Text.Decimal
import AssetAccess.Text.Description
import AssetAccess.Text.Direction
import AssetAccess.Text.Folding
import AssetAccess.Text.Form
import AssetAccess.Text.Hex
import AssetAccess.Text.Joining
import AssetAccess.Text.Percent
import AssetAccess.Text.Row
import AssetAccess.Text.Sorted
import AssetAccess.Text.Utf8
import AssetAccess.Time.Calendar
import AssetAccess.Time.Clock
import AssetAccess.Time.Instant
import AssetAccess.Time.SignDate
import AssetAccess.Url.Address
import AssetAccess.Url.Authority
import AssetAccess.Url.Domain
import AssetAccess.Url.Fault
import AssetAccess.Url.Host
import AssetAccess.Url.Ipv4
import AssetAccess.Url.Ipv6
import AssetAccess.Url.Label
import AssetAccess.Url.Path
import AssetAccess.Url.Punycode
import AssetAccess.Version
