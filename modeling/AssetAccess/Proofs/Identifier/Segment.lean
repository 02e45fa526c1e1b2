import AssetAccess.Proofs.Identifier.PackedId
import Mathlib.Algebra.GroupWithZero.Nat
/-!
# The words behind a random identifier

`HandsOut s l s'` follows a source word by word: from the state `s` on it hands out just the words
of `l`, long and short ones, and is left in the state `s'`.

A random identifier uses up a `Segment`: two long words, and for each of its shifts some short
words, all but the last of which are thrown away.  The segment and the time make the identifier
(`exists_makes`).  The length of a segment depends on how many words are thrown away, so identifiers
stay apart only because each segment starts where the one before it ended (`HandsOut.append`).
-/

namespace AssetAccess.Identifier

open Generator RandomSource

/-- A word that a source hands out. -/
inductive Word where
  | long (w : UInt64)
  | short (w : UInt32)

/-- How much a word counts, where the two kinds count differently. -/
def Word.size (long short : Nat) : Word → Nat
  | .long _ => long
  | .short _ => short

variable {σ : Type} [RandomSource σ]

/-- A source hands out these words in this order, and nothing else on the way. -/
inductive HandsOut : σ → List Word → σ → Prop where
  | nil (s : σ) : HandsOut s [] s
  | long {s s' : σ} {l : List Word} (h : HandsOut (next64 s).2 l s') :
      HandsOut s (.long (next64 s).1 :: l) s'
  | short {s s' : σ} {l : List Word} (h : HandsOut (next32 s).2 l s') :
      HandsOut s (.short (next32 s).1 :: l) s'

section Words

variable {s s' s'' : σ} {l m : List Word}

theorem HandsOut.append (h : HandsOut s l s') (h' : HandsOut s' m s'') :
    HandsOut s (l ++ m) s'' := by
  induction h with
  | nil => exact h'
  | long _ ih => exact .long (ih h')
  | short _ ih => exact .short (ih h')

/-- Whatever counts the words of a source, it counts those that are handed out. -/
theorem HandsOut.count_eq {taken : σ → Nat} {long short : Nat}
    (hlong : ∀ s, taken (next64 s).2 = taken s + long)
    (hshort : ∀ s, taken (next32 s).2 = taken s + short) (h : HandsOut s l s') :
    taken s' = taken s + (l.map (Word.size long short)).sum := by
  induction h with
  | nil => rfl
  | long _ ih =>
    rw [ih, hlong, List.map_cons, List.sum_cons, Word.size, Nat.add_assoc]
  | short _ ih =>
    rw [ih, hshort, List.map_cons, List.sum_cons, Word.size, Nat.add_assoc]

end Words

/-! ### Numbers from a range -/

/-- The words behind a number from a range: some that are thrown away, and the one that is taken. -/
structure Pick where
  refused : List UInt32
  taken : UInt32

namespace Pick

/-- The words in the order in which they are drawn. -/
def words (p : Pick) : List Word := p.refused.map .short ++ [.short p.taken]

/-- The number below `count` that the words make. -/
def number (p : Pick) (count : Nat) : Nat := p.taken.toNat * count / 4294967296

/-- The words are thrown away or taken as they have to be for a number below `count`. -/
structure Fair (p : Pick) (count : Nat) : Prop where
  refused : ∀ w ∈ p.refused, zone count < w.toNat * count % 4294967296
  taken : p.taken.toNat * count % 4294967296 ≤ zone count

end Pick

theorem exists_pick_of_below {count n : Nat} {s s' : σ} (h : Below count s n s') :
    ∃ p : Pick, p.Fair count ∧ p.number count = n ∧ HandsOut s p.words s' := by
  -- on the words that are thrown away: each of them goes ahead of what the later draws refuse
  induction h with
  | @taken s h =>
    exact ⟨⟨[], (next32 s).1⟩, ⟨fun w hw => absurd hw List.not_mem_nil, h⟩, rfl, .short (.nil _)⟩
  | @thrownAway s s' n h _ ih =>
    obtain ⟨p, hfair, hnumber, hwords⟩ := ih
    refine ⟨⟨(next32 s).1 :: p.refused, p.taken⟩, ⟨?_, hfair.taken⟩, hnumber, .short hwords⟩
    exact List.forall_mem_cons.mpr ⟨h, hfair.refused⟩

/-! ### Random identifiers -/

/-- The words behind a random identifier. -/
structure Segment where
  first : UInt64
  second : UInt64
  firstPick : Pick
  secondPick : Pick

namespace Segment

/-- The words in the order in which they are drawn. -/
def words (s : Segment) : List Word :=
  .long s.first :: .long s.second :: (s.firstPick.words ++ s.secondPick.words)

/-- How much the words count together. -/
def size (long short : Nat) (s : Segment) : Nat := (s.words.map (Word.size long short)).sum

/-- The parts that the words and a time give to an identifier. -/
def ingredients (s : Segment) (time : Nat) : Ingredients where
  first := s.first.toNat % 9223372036854775808
  second := s.second.toNat % 9223372036854775808
  firstShift := 2 + s.firstPick.number 16
  secondShift := 1 + s.secondPick.number 8
  time := time

/-- The words for both shifts are thrown away or taken as they have to be. -/
structure Fair (s : Segment) : Prop where
  firstPick : s.firstPick.Fair 16
  secondPick : s.secondPick.Fair 8

end Segment

/-- A generator makes an identifier of the words of a segment and of a reading of the clock, and
uses up nothing else. -/
structure Makes (g : Generator σ) (s : Segment) (n : Nat) (g' : Generator σ) : Prop where
  fair : s.Fair
  words : HandsOut g.source s.words g'.source
  number : ∃ t, g.clock.now.ReadsAs t ∧ n = (s.ingredients t).id
  clock : g'.clock = g.clock.next
  host : g'.host = g.host

theorem Drawn.exists_makes {g g' : Generator σ} {p : Ingredients} (h : Drawn g p g') :
    ∃ s, Makes g s p.id g' := by
  obtain @⟨w, w', s₁, s₂, s₃, s₄, a, b, t, ht, hw, hw', ha, hb⟩ := h
  obtain ⟨firstPick, hfirst, rfl, hwords⟩ := exists_pick_of_below ha
  obtain ⟨secondPick, hsecond, rfl, hwords'⟩ := exists_pick_of_below hb
  obtain ⟨rfl, rfl⟩ := Prod.mk.inj hw
  obtain ⟨rfl, rfl⟩ := Prod.mk.inj hw'
  exact ⟨⟨_, _, firstPick, secondPick⟩, ⟨hfirst, hsecond⟩, .long (.long (hwords.append hwords')),
    ⟨t, ht, rfl⟩, rfl, rfl⟩

/-- **The next random identifier** uses up the next segment of the source. -/
theorem exists_makes (g : Generator σ) :
    ∃ s, Makes g s (randomId.run g).1.toNat (randomId.run g).2 := by
  obtain ⟨p, hdrawn, hid⟩ := exists_drawn_id g
  rw [hid]
  exact hdrawn.exists_makes

end AssetAccess.Identifier
