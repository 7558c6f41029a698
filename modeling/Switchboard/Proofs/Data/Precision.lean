import Switchboard.Data.Conversion
import Switchboard.Proofs.Data.Reading
import Switchboard.Proofs.Number.Nearest

/-!
# Numbers in values

However many digits a number is written with, it is read as a number of the format. So a text in JSON is
read as a value that holds numbers of the format alone, and what parts of it count as where a number is asked
for are numbers of the format as well.
-/

namespace Switchboard

section Text

variable {text rest : List Char} {x : Double}

theorem inFormat_of_readDecimal {negative : Bool} (h : readDecimal negative text = some x) :
    x.InFormat := by
  unfold readDecimal at h
  extract_lets whole at h
  split at h
  split at h
  · cases h
  · obtain ⟨exponent, -, h⟩ := Option.bind_eq_some_iff.1 h
    cases h
    exact Double.inFormat_ofDecimal _ _ _

theorem inFormat_of_readDouble (h : readDouble text = some x) : x.InFormat := by
  obtain ⟨plain, -, h⟩ := Option.bind_eq_some_iff.1 h
  split at h
  dsimp only at h
  split at h
  · cases h
    trivial
  · split at h
    · cases h
      trivial
    · exact inFormat_of_readDecimal h

end Text

namespace Value

/-- All numbers in a value are numbers of the format. -/
inductive Precise : Value → Prop
  | scalar {s : Scalar} (number : ∀ x, s = .float x → x.InFormat) : Precise (scalar s)
  | list {items : List Value} (each : ∀ v ∈ items, Precise v) : Precise (list items)
  | record {fields : Fields} (each : ∀ f ∈ fields, Precise f.2) : Precise (record fields)

variable {v w : Value} {name : String} {x : Double}

theorem Precise.field (h : Precise v) (found : v.field name = .ok w) : Precise w := by
  cases h with
  | scalar number => cases found
  | list each => cases found
  | record each =>
    rw [Value.field] at found
    split at found
    · rename_i found'
      cases found
      obtain ⟨m, member⟩ := Fields.mem_of_get? found'
      exact each _ member
    · cases found

theorem Precise.inFormat (h : Precise v) (read : v.toDouble = .ok x) : x.InFormat := by
  cases h with
  | list each => cases read
  | record each => cases read
  | @scalar s number =>
    cases s with
    | null => cases read
    | moment m => cases read
    | bool b =>
      cases read
      exact Double.inFormat_ofInt _
    | int n =>
      have given := Double.inFormat_ofInt n
      change withinRange (.ofInt n) = .ok x at read
      generalize Double.ofInt n = y at given read
      cases y <;> cases read <;> exact given
    | float y =>
      cases read
      exact number x rfl
    | text s =>
      rw [toDouble] at read
      split at read
      · cases read
        rename_i found
        exact inFormat_of_readDouble found
      · cases read

theorem compositional_precise : Compositional Precise where
  list := .list
  record {pairs} each := by
    refine Fields.putAll_invariant (P := fun fields => Precise (Value.record fields)) (.record nofun) ?_
    intro f member before known
    cases known with
    | record known =>
      refine .record fun g given => ?_
      rcases Fields.mem_put given with same | old
      · exact same ▸ each f member
      · exact known g old

end Value

namespace Json

variable {text rest : List Char} {x : Double} {token : Token} {v : Value}

theorem inFormat_of_number? (h : number? text = some (.scalar (.float x), rest)) : x.InFormat := by
  unfold number? at h
  split at h
  obtain ⟨⟨whole, fraction⟩, -, h⟩ := Option.bind_eq_some_iff.1 h
  dsimp only at h
  split at h
  · split at h <;> cases h
  · cases h
    exact Double.inFormat_ofDecimal _ _ _

/-- The words that are numbers are no finite ones. -/
theorem inFormat_of_mem_words : ∀ w ∈ words, ∀ x, w.2 = .float x → x.InFormat := by
  simp only [words, List.forall_mem_cons, List.not_mem_nil]
  refine ⟨nofun, nofun, nofun, ?_, ?_, ?_, nofun⟩ <;> rintro _ ⟨⟩ <;> trivial

theorem inFormat_of_word? (h : word? text = some (.scalar (.float x), rest)) : x.InFormat := by
  obtain ⟨w, given, h⟩ := List.exists_of_findSome?_eq_some h
  split at h
  · injection h with h
    injection h with h
    injection h with h
    exact inFormat_of_mem_words w given x h
  · cases h

theorem inFormat_of_token? (h : token? text = some (.scalar (.float x), rest)) : x.InFormat := by
  unfold token? at h
  split at h
  case h_8 =>
    obtain ⟨p, -, h⟩ := Option.bind_eq_some_iff.1 h
    obtain ⟨chars, -, h⟩ := Option.bind_eq_some_iff.1 h
    cases h
  case h_9 =>
    cases found : word? text with
    | some p =>
      rw [found] at h
      exact inFormat_of_word? (found.trans h)
    | none =>
      rw [found] at h
      exact inFormat_of_number? h
  all_goals cases h

theorem inFormat_of_mem_tokensWithin {bound : Nat}
    (h : Token.scalar (.float x) ∈ tokensWithin bound text) : x.InFormat := by
  induction bound generalizing text with
  | zero =>
    unfold tokensWithin at h
    split at h
    · cases h
    · cases List.mem_singleton.1 h
  | succ bound ih =>
    unfold tokensWithin at h
    split at h
    · cases h
    · dsimp only at h
      split at h
      · rename_i found
        rcases List.mem_cons.1 h with rfl | later
        · exact inFormat_of_token? found
        · exact ih later
      · cases List.mem_singleton.1 h

theorem precise_read (h : read text = .ok v) : v.Precise := by
  refine read_invariant Value.compositional_precise (fun s given => .scalar ?_) h
  rintro x rfl
  exact inFormat_of_mem_tokensWithin given

theorem precise_readBytes {bytes : List Nat} (h : readBytes bytes = .ok v) : v.Precise := by
  obtain ⟨text, -, h⟩ := bind_eq_ok_iff.1 h
  exact precise_read h

end Json

end Switchboard
