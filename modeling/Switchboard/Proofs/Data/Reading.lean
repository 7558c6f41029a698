import Switchboard.Data.Json.Reader
import Switchboard.Data.Yaml.Reader
import Switchboard.Proofs.Data.Attempt
import Switchboard.Proofs.Data.Layering

/-!
# What texts are read as

However often a text mentions a name, no record that it is read as has two fields of that name. For JSON
this is one of the properties that a value has because its scalars have it, and because lists and records
keep it.
-/

namespace Switchboard

open Value

/-- A property of values that lists and records have if their parts do. -/
structure Compositional (P : Value → Prop) : Prop where
  list : ∀ {items : List Value}, (∀ v ∈ items, P v) → P (list items)
  record : ∀ {pairs : List (Scalar × Value)}, (∀ f ∈ pairs, P f.2) → P (record (Fields.ofPairs pairs))

theorem Compositional.emptyRecord {P : Value → Prop} (built : Compositional P) : P emptyRecord :=
  @Compositional.record P built [] nofun

theorem compositional_unambiguous : Compositional Unambiguous := ⟨.list, unambiguous_ofPairs⟩

namespace Json

def Frame.parts : Frame → List Value
  | list items => items
  | record fields _ => fields.map (·.2)

def Reading.parts : Reading → List Value
  | wantValue outer => outer.flatMap Frame.parts
  | wantItem outer => outer.flatMap Frame.parts
  | wantField outer => outer.flatMap Frame.parts
  | wantName outer fields => fields.map (·.2) ++ outer.flatMap Frame.parts
  | wantColon outer fields _ => fields.map (·.2) ++ outer.flatMap Frame.parts
  | complete inner outer => inner.parts ++ outer.flatMap Frame.parts
  | done v => [v]

variable {v : Value} {outer : List Frame} {r next : Reading} {token : Token}

theorem parts_place : (place v outer).parts = v :: outer.flatMap Frame.parts := by
  match outer with
  | [] => rfl
  | .list items :: outer => rfl
  | .record fields name :: outer => rfl

theorem mem_parts_readValue (h : readValue outer token = .ok next) (member : v ∈ next.parts) :
    v ∈ outer.flatMap Frame.parts ∨ ∃ s, token = .scalar s ∧ v = scalar s := by
  cases token with
  | scalar s =>
    cases h
    rw [parts_place] at member
    rcases List.mem_cons.1 member with rfl | known
    · exact .inr ⟨s, rfl, rfl⟩
    · exact .inl known
  | openList =>
    rw [readValue, opened] at h
    split at h <;> cases h
    exact .inl member
  | openRecord =>
    rw [readValue, opened] at h
    split at h <;> cases h
    exact .inl member
  | _ => cases h

section Invariant

variable {P : Value → Prop}

/-- A token keeps what holds of all values that have been read. -/
theorem next_invariant (built : Compositional P) (single : ∀ s, token = .scalar s → P (scalar s))
    (known : ∀ v ∈ r.parts, P v) (h : r.next token = .ok next) : ∀ v ∈ next.parts, P v := by
  have placed {v : Value} {outer : List Frame} (hv : P v)
      (known : ∀ w ∈ outer.flatMap Frame.parts, P w) : ∀ w ∈ (place v outer).parts, P w := by
    rw [parts_place]
    exact List.forall_mem_cons.2 ⟨hv, known⟩
  have valued {outer : List Frame} (h : readValue outer token = .ok next)
      (known : ∀ w ∈ outer.flatMap Frame.parts, P w) : ∀ w ∈ next.parts, P w := by
    intro w member
    rcases mem_parts_readValue h member with old | ⟨s, rfl, rfl⟩
    · exact known w old
    · exact single s rfl
  unfold Reading.next at h
  split at h
  · exact valued h known
  · cases h
    exact placed (built.list nofun) known
  · exact valued h known
  · cases h
    exact placed built.emptyRecord known
  · cases h
    exact known
  · cases h
    exact known
  · cases h
    exact known
  · cases h
    exact known
  · rename_i items outer
    cases h
    have inner : ∀ v ∈ items, P v := fun v member => known v (List.mem_append_left _ member)
    exact placed (built.list fun v member => inner v (List.mem_reverse.1 member))
      fun w member => known w (List.mem_append_right _ member)
  · cases h
    exact known
  · rename_i fields name outer
    cases h
    have inner : ∀ f ∈ fields, P f.2 := fun f member =>
      known f.2 (List.mem_append_left _ (List.mem_map_of_mem member))
    exact placed (built.record fun f member => inner f (List.mem_reverse.1 member))
      fun w member => known w (List.mem_append_right _ member)
  · cases h

theorem read_invariant {text : List Char} (built : Compositional P)
    (single : ∀ s, Token.scalar s ∈ tokens text → P (scalar s)) (h : read text = .ok v) : P v := by
  obtain ⟨r, steps, h⟩ := bind_eq_ok_iff.1 h
  have known : ∀ v ∈ r.parts, P v := by
    refine foldlM_invariant (P := fun r => ∀ v ∈ r.parts, P v) ?_ ?_ steps
    · simp [Reading.parts]
    · intro token given r next known step
      exact next_invariant built (fun s same => single s (same ▸ given)) known step
  split at h
  · cases h
    exact known _ List.mem_cons_self
  · cases h

end Invariant

theorem unambiguous_read {text : List Char} (h : read text = .ok v) : Unambiguous v :=
  read_invariant compositional_unambiguous (fun s _ => .scalar s) h

end Json

namespace Yaml

theorem both_eq_ok_iff {α β : Type} {x : Except Flaw α} {y : Except Flaw β} {p : α × β} :
    both x y = .ok p ↔ x = .ok p.1 ∧ y = .ok p.2 := by
  obtain ⟨a, b⟩ := p
  cases x <;> cases y <;> simp [both]

namespace Node

def Sound (fields : List (Scalar × Value)) : Prop := ∀ f ∈ fields, Unambiguous f.2

theorem Sound.append {first later : List (Scalar × Value)} (h : Sound first) (h' : Sound later) :
    Sound (first ++ later) := List.forall_mem_append.2 ⟨h, h'⟩

mutual

theorem unambiguous_value {depth : Nat} : ∀ {node : Node} {v : Value},
    value depth node = .ok v → Unambiguous v
  | scalar w, v, h => by
    rw [value] at h
    cases read : w.scalar with
    | ok s =>
      rw [read] at h
      cases h
      exact .scalar s
    | error cause =>
      rw [read] at h
      cases h
  | list items, v, h => by
    rw [value] at h
    obtain ⟨vs, read, rfl⟩ := map_eq_ok_iff.1 h
    exact .list (unambiguous_values read)
  | record fields, v, h => by
    rw [value] at h
    split at h
    · obtain ⟨p, read, rfl⟩ := map_eq_ok_iff.1 h
      obtain ⟨first, later⟩ := both_eq_ok_iff.1 read
      exact unambiguous_ofPairs ((sound_inherited first).append (sound_own later))
    · cases h

theorem unambiguous_values {depth : Nat} : ∀ {items : List Node} {vs : List Value},
    values depth items = .ok vs → ∀ v ∈ vs, Unambiguous v
  | [], vs, h => by
    cases h
    exact nofun
  | node :: rest, vs, h => by
    rw [values] at h
    obtain ⟨p, read, rfl⟩ := map_eq_ok_iff.1 h
    obtain ⟨first, later⟩ := both_eq_ok_iff.1 read
    exact List.forall_mem_cons.2 ⟨unambiguous_value first, unambiguous_values later⟩

theorem sound_own {depth : Nat} : ∀ {fields : List (Node × Node)} {own : List (Scalar × Value)},
    Node.own depth fields = .ok own → Sound own
  | [], own, h => by
    cases h
    exact nofun
  | (name, node) :: rest, own, h => by
    rw [Node.own] at h
    split at h
    · exact sound_own h
    · obtain ⟨p, read, rfl⟩ := map_eq_ok_iff.1 h
      obtain ⟨first, later⟩ := both_eq_ok_iff.1 read
      obtain ⟨-, first⟩ := both_eq_ok_iff.1 first
      exact List.forall_mem_cons.2 ⟨unambiguous_value first, sound_own later⟩

theorem sound_inherited {depth : Nat} : ∀ {fields : List (Node × Node)}
    {taken : List (Scalar × Value)}, inherited depth fields = .ok taken → Sound taken
  | [], taken, h => by
    cases h
    exact nofun
  | (name, node) :: rest, taken, h => by
    rw [inherited] at h
    split at h
    · obtain ⟨p, read, rfl⟩ := map_eq_ok_iff.1 h
      obtain ⟨first, later⟩ := both_eq_ok_iff.1 read
      exact (sound_merged first).append (sound_inherited later)
    · exact sound_inherited h

theorem sound_merged {depth : Nat} : ∀ {node : Node} {taken : List (Scalar × Value)},
    merged depth node = .ok taken → Sound taken
  | scalar w, taken, h => by
    rw [merged] at h
    cases h
  | record fields, taken, h => by
    rw [merged] at h
    obtain ⟨p, read, rfl⟩ := map_eq_ok_iff.1 h
    obtain ⟨first, later⟩ := both_eq_ok_iff.1 read
    exact (sound_inherited first).append (sound_own later)
  | list items, taken, h => by
    rw [merged] at h
    exact sound_mergedItems h

theorem sound_mergedItems {depth : Nat} : ∀ {items : List Node} {taken : List (Scalar × Value)},
    mergedItems depth items = .ok taken → Sound taken
  | [], taken, h => by
    cases h
    exact nofun
  | node :: rest, taken, h => by
    rw [mergedItems] at h
    obtain ⟨p, read, rfl⟩ := map_eq_ok_iff.1 h
    obtain ⟨first, later⟩ := both_eq_ok_iff.1 read
    exact (sound_mergedItems first).append (sound_merged later)

end

end Node

theorem unambiguous_read {text : List Char} {v : Value} (h : read text = .ok v) :
    Unambiguous v := by
  rw [read] at h
  split at h
  · cases h
  · obtain ⟨r, -, h⟩ := bind_eq_ok_iff.1 h
    obtain ⟨node, -, h⟩ := bind_eq_ok_iff.1 h
    rw [Node.toValue] at h
    split at h
    · rename_i read
      cases h
      exact Node.unambiguous_value read
    · cases h

end Yaml

end Switchboard
