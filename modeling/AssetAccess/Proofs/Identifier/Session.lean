import AssetAccess.Identifier.Draws
import AssetAccess.Proofs.Identifier.Segment
import Mathlib.Algebra.BigOperators.Group.List.Defs
import Mathlib.Logic.Function.Iterate
/-!
# Sessions with a generator

A session is a list of calls on one generator.  Every call makes one or two random identifiers, and
`Transcript` records which segments of the source they use up: each segment starts where the one
before it ended, within a call and from call to call.  So what the source hands out in a session is
just the segments one after another (`Transcript.words`).

How many identifiers a call makes does not depend on what it is given.  So the source is left in the
same state by any two lists of calls that make as many identifiers (`leaves_session`), and under a
clock that has stopped nobody can tell later which of the two came before (`session_gapless`).
-/

namespace AssetAccess.Identifier

open Generator RandomSource

/-- A call on a generator. -/
inductive Call where
  | randomId
  | nonce
  | packedId (base : UInt64) (flag : Bool)
  | assetId (appId : Int64)
deriving DecidableEq

variable {σ : Type} [RandomSource σ]

namespace Call

/-- The number of random identifiers that a call makes. -/
def idCount : Call → Nat
  | .randomId => 1
  | _ => 2

/-- A call, with its result as a number. -/
def perform : Call → Generation σ Int
  | .randomId => do return (← Generator.randomId).toNat
  | .nonce => do return (← Generator.nonce).toInt
  | .packedId base flag => do return (← Generator.packedId base flag).toNat
  | .assetId appId => do return (← Generator.assetId appId).toInt

end Call

/-- The results of calls, one after another. -/
def session (calls : List Call) : Generation σ (List Int) := calls.mapM Call.perform

/-! ### Transcripts -/

/-- A call uses up these segments of the source, has this result and leaves the generator in this
state. -/
inductive Answers (g : Generator σ) : Call → List Segment → Int → Generator σ → Prop where
  | randomId {s : Segment} {n : Nat} {g' : Generator σ} (h : Makes g s n g') :
      Answers g .randomId [s] n g'
  | nonce {s s' : Segment} {m n : Nat} {g₁ g₂ : Generator σ} (h : Makes g s m g₁)
      (h' : Makes g₁ s' n g₂) :
      Answers g .nonce [s, s']
        ((contentHash (Decimal.ofNat m ++ "#" ++ Decimal.ofNat n ++ "#" ++
          Decimal.ofInt g₂.clock.unixNanos ++ "#" ++ g₂.host)).toNat % 9223372036854775808 : Nat)
        { g₂ with clock := g₂.clock.next }
  | packedId (base : UInt64) (flag : Bool) {s s' : Segment} {m n : Nat} {g₁ g₂ : Generator σ}
      (h : Makes { g with clock := g.clock.next } s m g₁) (h' : Makes g₁ s' n g₂) :
      Answers g (.packedId base flag) [s, s']
        (PackedParts.of base.toNat flag
          (contentHash (packedText base flag g.clock.unixNanos)).toNat m n).sum g₂
  | assetId (appId : Int64) {s s' : Segment} {m n : Nat} {g₁ g₂ : Generator σ}
      (h : Makes { g with clock := g.clock.next } s m g₁) (h' : Makes g₁ s' n g₂) :
      Answers g (.assetId appId) [s, s']
        (PackedParts.of appId.toUInt64.toNat false
          (contentHash (packedText appId.toUInt64 false g.clock.unixNanos)).toNat m n).sum g₂

/-- Calls use up these segments, have these results and leave the generator in this state.  Each
call starts in the state in which the one before it left the generator. -/
inductive Transcript : Generator σ → List Call → List (List Segment) → List Int → Generator σ →
    Prop where
  | nil (g : Generator σ) : Transcript g [] [] [] g
  | cons {g g₁ g' : Generator σ} {c : Call} {calls : List Call} {used : List Segment}
      {segments : List (List Segment)} {n : Int} {results : List Int} (h : Answers g c used n g₁)
      (hr : Transcript g₁ calls segments results g') :
      Transcript g (c :: calls) (used :: segments) (n :: results) g'

section Transcripts

variable {g g' : Generator σ} {c : Call} {calls : List Call} {used : List Segment}
  {segments : List (List Segment)} {n : Int} {results : List Int}

theorem Answers.length_eq (h : Answers g c used n g') : used.length = c.idCount := by
  cases h <;> rfl

/-- What the source hands out in a call is the segments of the call. -/
theorem Answers.words (h : Answers g c used n g') :
    HandsOut g.source (used.flatMap Segment.words) g'.source := by
  cases h with
  | randomId h => simpa using h.words
  | nonce h h' => simpa using h.words.append h'.words
  | packedId _ _ h h' => simpa using h.words.append h'.words
  | assetId _ h h' => simpa using h.words.append h'.words

theorem Transcript.length_eq (h : Transcript g calls segments results g') :
    segments.map List.length = calls.map Call.idCount := by
  induction h with
  | nil => rfl
  | cons h _ ih => rw [List.map_cons, List.map_cons, h.length_eq, ih]

/-- **What the source hands out in a session** is the segments, one after another. -/
theorem Transcript.words (h : Transcript g calls segments results g') :
    HandsOut g.source (segments.flatten.flatMap Segment.words) g'.source := by
  induction h with
  | nil g => exact .nil g.source
  | cons h _ ih =>
    rw [List.flatten_cons, List.flatMap_append]
    exact h.words.append ih

/-- However the words of a source are counted, a session takes as many as its segments have. -/
theorem Transcript.count_eq {taken : σ → Nat} {long short : Nat}
    (hlong : ∀ s, taken (next64 s).2 = taken s + long)
    (hshort : ∀ s, taken (next32 s).2 = taken s + short)
    (h : Transcript g calls segments results g') :
    taken g'.source = taken g.source + (segments.flatten.map (Segment.size long short)).sum := by
  rw [h.words.count_eq hlong hshort, List.map_flatMap, List.flatMap_def, List.sum_flatten,
    List.map_map]
  rfl

end Transcripts

/-! ### Runs -/

/-- A nonce is made of two random identifiers and the third reading of the clock. -/
theorem run_nonce (g : Generator σ) :
    nonce.run g =
      let first := randomId.run g
      let second := randomId.run first.2
      ((contentHash (nonceText first.1 second.1 second.2.clock.unixNanos second.2.host) &&&
        mask63).toInt64, { second.2 with clock := second.2.clock.next }) := rfl

theorem nonceText_eq (first second : UInt64) (nanos : Int) (host : String) :
    nonceText first second nanos host = Decimal.ofNat first.toNat ++ "#" ++
      Decimal.ofNat second.toNat ++ "#" ++ Decimal.ofInt nanos ++ "#" ++ host := rfl

/-- **A call** uses up one segment or two, and nothing of the source beside them. -/
theorem exists_answers (g : Generator σ) (c : Call) :
    ∃ used, Answers g c used (c.perform.run g).1 (c.perform.run g).2 := by
  cases c with
  | randomId =>
    obtain ⟨s, h⟩ := exists_makes g
    exact ⟨[s], .randomId h⟩
  | nonce =>
    obtain ⟨s, h⟩ := exists_makes g
    obtain ⟨s', h'⟩ := exists_makes (randomId.run g).2
    refine ⟨[s, s'], ?_⟩
    have hresult : (Call.nonce.perform.run g).1 = (nonce.run g).1.toInt := rfl
    have hanswers := Answers.nonce h h'
    -- the nonce is the hash without its highest bit, which has the same number with a sign
    rw [← nonceText_eq, ← toNat_and_mask63, ← toInt_toInt64 (toNat_and_mask63_lt _)] at hanswers
    rw [hresult, run_nonce]
    exact hanswers
  | packedId base flag =>
    obtain ⟨s, h⟩ := exists_makes { g with clock := g.clock.next }
    obtain ⟨s', h'⟩ := exists_makes (randomId.run { g with clock := g.clock.next }).2
    refine ⟨[s, s'], ?_⟩
    have hresult : (Call.packedId base flag).perform.run g =
        ((((packedId base flag).run g).1.toNat : Int), ((packedId base flag).run g).2) := rfl
    have hanswers := Answers.packedId base flag h h'
    rw [← toNat_pack] at hanswers
    rw [hresult, run_packedId]
    exact hanswers
  | assetId appId =>
    obtain ⟨s, h⟩ := exists_makes { g with clock := g.clock.next }
    obtain ⟨s', h'⟩ := exists_makes (randomId.run { g with clock := g.clock.next }).2
    refine ⟨[s, s'], ?_⟩
    have hresult : (Call.assetId appId).perform.run g =
        (((assetId appId).run g).1.toInt, ((packedId appId.toUInt64 false).run g).2) := rfl
    have hanswers := Answers.assetId appId h h'
    rw [← toNat_pack] at hanswers
    rw [hresult, (toInt_assetId g appId).1, run_packedId]
    exact hanswers

/-- The first call is answered, and the others find the generator as it was left. -/
theorem run_session_cons (c : Call) (calls : List Call) (g : Generator σ) :
    (session (c :: calls)).run g =
      ((c.perform.run g).1 :: ((session calls).run (c.perform.run g).2).1,
        ((session calls).run (c.perform.run g).2).2) := by
  rw [session, List.mapM_cons]
  rfl

theorem run_session_append (calls later : List Call) (g : Generator σ) :
    (session (calls ++ later)).run g =
      (((session calls).run g).1 ++ ((session later).run ((session calls).run g).2).1,
        ((session later).run ((session calls).run g).2).2) := by
  rw [session, List.mapM_append]
  rfl

theorem exists_transcript (g : Generator σ) (calls : List Call) :
    ∃ segments, Transcript g calls segments ((session calls).run g).1
      ((session calls).run g).2 := by
  induction calls generalizing g with
  | nil => exact ⟨[], .nil g⟩
  | cons c calls ih =>
    obtain ⟨used, hused⟩ := exists_answers g c
    obtain ⟨segments, hsegments⟩ := ih (c.perform.run g).2
    rw [run_session_cons]
    exact ⟨used :: segments, .cons hused hsegments⟩

theorem length_session (g : Generator σ) (calls : List Call) :
    ((session calls).run g).1.length = calls.length := by
  induction calls generalizing g with
  | nil => rfl
  | cons c calls ih => rw [run_session_cons, List.length_cons, ih, List.length_cons]

/-! ### What a session leaves behind -/

/-- The state in which a random identifier leaves the source. -/
def sourceAfter (s : σ) : σ := (randomId.run ⟨s, .fixed .epoch, ""⟩).2.source

/-- What is left of a generator when it has made a number of random identifiers: the source as they
leave it, the name of the machine, and what the clock shows. -/
structure Leaves (count : Nat) (g g' : Generator σ) : Prop where
  source : g'.source = sourceAfter^[count] g.source
  host : g'.host = g.host
  reading : g'.clock.reading = g.clock.reading

theorem Leaves.trans {m n : Nat} {g g' g'' : Generator σ} (h : Leaves m g g')
    (h' : Leaves n g' g'') : Leaves (m + n) g g'' where
  source := by rw [h'.source, h.source, Nat.add_comm, Function.iterate_add_apply]
  host := h'.host.trans h.host
  reading := h'.reading.trans h.reading

/-- What a call leaves depends on nothing but the number of identifiers that it makes. -/
theorem leaves_perform (c : Call) (g : Generator σ) :
    Leaves c.idCount g (c.perform.run g).2 := by
  cases c <;> exact ⟨rfl, rfl, rfl⟩

theorem leaves_session (calls : List Call) (g : Generator σ) :
    Leaves (calls.map Call.idCount).sum g ((session calls).run g).2 := by
  induction calls generalizing g with
  | nil => exact ⟨rfl, rfl, rfl⟩
  | cons c calls ih =>
    rw [run_session_cons, List.map_cons, List.sum_cons]
    exact (leaves_perform c g).trans (ih _)

/-! ### Clocks that have stopped -/

/-- Two generators whose clocks show `t` for ever, and which differ at most in the number of
readings. -/
structure Alike (t : Instant) (g g' : Generator σ) : Prop where
  source : g.source = g'.source
  host : g.host = g'.host
  reading : g.clock.reading = fun _ => t
  reading' : g'.clock.reading = fun _ => t

section Stopped

variable {t : Instant} {g g' : Generator σ}

omit [RandomSource σ] in
theorem Alike.unixNanos_eq (h : Alike t g g') : g.clock.unixNanos = g'.clock.unixNanos := by
  rw [Clock.unixNanos, Clock.unixNanos, Clock.now, Clock.now, h.reading, h.reading']

omit [RandomSource σ] in
theorem Alike.next (h : Alike t g g') :
    Alike t { g with clock := g.clock.next } { g' with clock := g'.clock.next } :=
  ⟨h.source, h.host, h.reading, h.reading'⟩

theorem Alike.of_leaves {count : Nat} {g₁ g₂ : Generator σ} (h : Alike t g g')
    (h₁ : Leaves count g g₁) (h₂ : Leaves count g' g₂) : Alike t g₁ g₂ where
  source := by rw [h₁.source, h₂.source, h.source]
  host := by rw [h₁.host, h₂.host, h.host]
  reading := h₁.reading.trans h.reading
  reading' := h₂.reading.trans h.reading'

/-- A call leaves generators alike. -/
theorem Alike.perform (h : Alike t g g') (c : Call) :
    Alike t (c.perform.run g).2 (c.perform.run g').2 :=
  h.of_leaves (leaves_perform c g) (leaves_perform c g')

theorem Alike.randomId_eq (h : Alike t g g') :
    (Generator.randomId.run g).1 = (Generator.randomId.run g').1 := by
  -- everything but the time is drawn from the source
  change mix _ _ _ _ (timeWord g.clock.unixNanos) = mix _ _ _ _ (timeWord g'.clock.unixNanos)
  rw [h.unixNanos_eq, h.source]

theorem Alike.randomId (h : Alike t g g') :
    Alike t (Generator.randomId.run g).2 (Generator.randomId.run g').2 :=
  h.perform .randomId

theorem Alike.nonce_eq (h : Alike t g g') :
    (Generator.nonce.run g).1 = (Generator.nonce.run g').1 := by
  simp only [run_nonce]
  rw [h.randomId_eq, h.randomId.randomId_eq, h.randomId.randomId.unixNanos_eq,
    h.randomId.randomId.host]

theorem Alike.packedId_eq (h : Alike t g g') (base : UInt64) (flag : Bool) :
    ((Generator.packedId base flag).run g).1 = ((Generator.packedId base flag).run g').1 := by
  simp only [run_packedId]
  rw [h.unixNanos_eq, h.next.randomId_eq, h.next.randomId.randomId_eq]

/-- Alike generators answer a call alike. -/
theorem Alike.perform_eq (h : Alike t g g') (c : Call) :
    (c.perform.run g).1 = (c.perform.run g').1 := by
  cases c with
  | randomId => exact congrArg (fun id : UInt64 => (id.toNat : Int)) h.randomId_eq
  | nonce => exact congrArg Int64.toInt h.nonce_eq
  | packedId base flag =>
    exact congrArg (fun id : UInt64 => (id.toNat : Int)) (h.packedId_eq base flag)
  | assetId appId =>
    exact congrArg (fun id : UInt64 => id.toInt64.toInt) (h.packedId_eq appId.toUInt64 false)

theorem Alike.session_eq (h : Alike t g g') (calls : List Call) :
    ((session calls).run g).1 = ((session calls).run g').1 := by
  induction calls generalizing g g' with
  | nil => rfl
  | cons c calls ih => rw [run_session_cons, run_session_cons, h.perform_eq, ih (h.perform c)]

/-- Under a clock that has stopped, calls that make as many identifiers leave generators alike. -/
theorem alike_session (hclock : g.clock.reading = fun _ => t) {calls calls' : List Call}
    (h : (calls.map Call.idCount).sum = (calls'.map Call.idCount).sum) :
    Alike t ((session calls).run g).2 ((session calls').run g).2 := by
  have hleaves := leaves_session calls' g
  rw [← h] at hleaves
  exact (Alike.mk rfl rfl hclock hclock).of_leaves (leaves_session calls g) hleaves

end Stopped

/-- The results of the calls that come after others. -/
theorem drop_session (g : Generator σ) (calls later : List Call) :
    ((session (calls ++ later)).run g).1.drop calls.length =
      ((session later).run ((session calls).run g).2).1 := by
  rw [run_session_append, List.drop_left' (length_session g calls)]

/-- **A generator** neither uses a word twice nor skips one.  The source hands out in a session just
the segments of its identifiers, one after another, a call making one or two of them.  While the
clock stands still, calls are answered as before when others that make as many identifiers take the
place of those ahead of them. -/
theorem session_gapless (g : Generator σ) :
    (∀ calls, ∃ segments,
      Transcript g calls segments ((session calls).run g).1 ((session calls).run g).2 ∧
      segments.map List.length = calls.map Call.idCount ∧
      HandsOut g.source (segments.flatten.flatMap Segment.words)
        ((session calls).run g).2.source ∧
      ∀ (taken : σ → Nat) (long short : Nat), (∀ s, taken (next64 s).2 = taken s + long) →
        (∀ s, taken (next32 s).2 = taken s + short) →
        taken ((session calls).run g).2.source =
          taken g.source + (segments.flatten.map (Segment.size long short)).sum) ∧
    ∀ t, (g.clock.reading = fun _ => t) → ∀ before block block' later,
      (block.map Call.idCount).sum = (block'.map Call.idCount).sum →
        ((session (before ++ block ++ later)).run g).1.drop (before ++ block).length =
          ((session (before ++ block' ++ later)).run g).1.drop (before ++ block').length := by
  constructor
  · intro calls
    obtain ⟨segments, h⟩ := exists_transcript g calls
    exact ⟨segments, h, h.length_eq, h.words, fun _ _ _ hlong hshort => h.count_eq hlong hshort⟩
  · intro t hclock before block block' later h
    rw [drop_session, drop_session]
    refine (alike_session hclock ?_).session_eq later
    rw [List.map_append, List.map_append, List.sum_append, List.sum_append, h]

/-- A random identifier and a nonce take three segments of given words; and a nonce may stand for
two random identifiers ahead of another call. -/
theorem session_gapless_draws :
    (∀ d : Draws, (next64 d).2.taken = d.taken + 1) ∧
    (∀ d : Draws, (next32 d).2.taken = d.taken + 1) ∧
    (∃ segments : List (List Segment), segments.map List.length = [1, 2] ∧
      ((session [.randomId, .nonce]).run
          (⟨⟨[1, 2, 3], 0⟩, .fixed .epoch, "host"⟩ : Generator Draws)).2.source.taken =
        0 + (segments.flatten.map (Segment.size 1 1)).sum) ∧
    ([Call.nonce].map Call.idCount).sum = ([Call.randomId, .randomId].map Call.idCount).sum ∧
    ((session ([.randomId] ++ [.nonce] ++ [.assetId (-1)])).run
        (⟨⟨[1, 2, 3], 0⟩, .fixed .epoch, "host"⟩ : Generator Draws)).1.drop 2 =
      ((session ([.randomId] ++ [.randomId, .randomId] ++ [.assetId (-1)])).run
        (⟨⟨[1, 2, 3], 0⟩, .fixed .epoch, "host"⟩ : Generator Draws)).1.drop 3 := by
  have hlong (d : Draws) : (next64 d).2.taken = d.taken + 1 := rfl
  have hshort (d : Draws) : (next32 d).2.taken = d.taken + 1 := rfl
  obtain ⟨huses, hlater⟩ := session_gapless
    (⟨⟨[1, 2, 3], 0⟩, .fixed .epoch, "host"⟩ : Generator Draws)
  obtain ⟨segments, -, hlength, -, hcount⟩ := huses [.randomId, .nonce]
  exact ⟨hlong, hshort, ⟨segments, hlength, hcount Draws.taken 1 1 hlong hshort⟩, by decide,
    hlater .epoch rfl [.randomId] [.nonce] [.randomId, .randomId] [.assetId (-1)] (by decide)⟩

end AssetAccess.Identifier
