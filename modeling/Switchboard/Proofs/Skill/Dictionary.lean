import Switchboard.Proofs.Skill.Entry
import Switchboard.Proofs.Skill.Lookup

/-!
# How the dictionary degrades

A live dictionary asks the source for the word of a query. The first entry that comes back is shown if
it is usable, and nearly every other outcome is answered with the entry that the dictionary has of its
own, under a note.
-/

namespace Switchboard.Dictionary

open Text

variable {source : Source} {query word : String} {network : Network} {e : Entry}
  {received : Except Failure Value}

/-- The first word of a query in small letters, without the signs around it. -/
def wordIn (query : String) : List Char :=
  trimWhile isOuterSign (((words (lower (trim query.toList))).head?).getD [])

theorem word_of_given (given : wordIn query ≠ []) :
    Dictionary.word query = .ok (String.ofList (wordIn query)) := by
  have argument : trim query.toList ≠ [] := by
    intro blank
    rw [wordIn, blank, show lower [] = [] from rfl, words] at given
    exact given rfl
  rw [Dictionary.word, requireArgument, if_neg (by simpa using argument), ok_bind]
  change (if (wordIn query).isEmpty then _ else _) = _
  rw [if_neg (by simpa using given)]
  rfl

theorem word_eq_error (none : wordIn query = []) :
    Dictionary.word query = .error (.invalidArgument "Word is required" (some name)) := by
  rw [Dictionary.word, requireArgument]
  split
  · rfl
  · rw [ok_bind]
    change (if (wordIn query).isEmpty then _ else _) = _
    rw [if_pos (by simp [none])]

section OwnEntries

structure OwnEntry (word : String) (e : Entry) : Prop where
  word : e.word = .text word
  simulated : e.simulated = true
  synonyms : ∃ texts : List String, e.synonyms = texts.map Value.text
  antonyms : ∃ texts : List String, e.antonyms = texts.map Value.text

theorem OwnEntry.exists_render (h : OwnEntry word e) : ∃ text, e.render = .ok text := by
  obtain ⟨synonyms, hsynonyms⟩ := h.synonyms
  obtain ⟨antonyms, hantonyms⟩ := h.antonyms
  apply Entry.exists_render
  rw [Entry.Unshowable, hsynonyms, hantonyms]
  rintro ⟨-, stumbles | stumbles⟩
  · exact Entry.not_stumbles_texts synonyms stumbles
  · exact Entry.not_stumbles_texts antonyms stumbles

/-- The own entry of a word comes from the small dictionary, or it is made up. -/
theorem simulatedEntry_eq (word : String) :
    ∃ fields ∈ generic word :: backup.map (·.2),
      simulatedEntry word = .record (("word", .text word) :: fields) := by
  cases known : backup.lookup word with
  | none =>
    refine ⟨generic word, List.mem_cons_self, ?_⟩
    rw [simulatedEntry, known]
    rfl
  | some fields =>
    obtain ⟨before, after, split, -⟩ := List.lookup_eq_some_iff.1 known
    have member : (word, fields) ∈ backup := by
      rw [split]
      exact List.mem_append_right _ List.mem_cons_self
    refine ⟨fields, List.mem_cons_of_mem _ (List.mem_map_of_mem member), ?_⟩
    rw [simulatedEntry, known]
    rfl

theorem exists_simulate (word : String) : ∃ e, simulate word = .ok e ∧ OwnEntry word e := by
  obtain ⟨fields, member, same⟩ := simulatedEntry_eq word
  rw [simulate, same]
  simp only [backup, List.map_cons, List.map_nil, List.mem_cons, List.not_mem_nil, or_false]
    at member
  obtain rfl | rfl | rfl | rfl := member
  · exact ⟨_, rfl, ite_self _, rfl, ⟨["similar", "comparable", "equivalent"], rfl⟩, [], rfl⟩
  · exact ⟨_, rfl, ite_self _, rfl, ⟨["hi", "greetings", "hey"], rfl⟩, [], rfl⟩
  · exact ⟨_, rfl, ite_self _, rfl,
      ⟨["climate", "atmospheric conditions", "meteorological conditions"], rfl⟩, [], rfl⟩
  · exact ⟨_, rfl, ite_self _, rfl, ⟨["compute", "reckon", "work out", "determine"], rfl⟩, [], rfl⟩

end OwnEntries

section Depth

variable {bound : Nat} {r : Reply}

theorem depth_of_simulate (made : simulate word = .ok e) : e.data.depth ≤ 5 := by
  obtain ⟨fields, member, same⟩ := simulatedEntry_eq word
  have flat : (simulatedEntry word).depth ≤ 5 := by
    rw [same]
    simp only [backup, List.map_cons, List.map_nil, List.mem_cons, List.not_mem_nil, or_false]
      at member
    obtain rfl | rfl | rfl | rfl := member <;> exact Nat.le_refl 5
  have data := Entry.depth_ofValue (Failure.ofMismatch_eq_ok made)
  omega

theorem depth_of_readPayload {payload : Value} (h : readPayload word payload = .ok (some e)) :
    e.data.depth ≤ max payload.depth 4 := by
  unfold readPayload at h
  split at h
  · rename_i first rest
    split at h
    · rename_i read
      cases h
      have inside : first.depth < (Value.list (first :: rest)).depth := by
        rw [Value.depth, Value.depthOfItems]
        omega
      have data := Entry.depth_ofValue read
      omega
    · cases h
  · cases h

theorem depth_of_fetch (h : ((fetch source word).perform true network).1 = .ok (some e))
    (shallow : network.Within bound) : e.data.depth ≤ max bound 4 := by
  rw [fetch] at h
  split at h
  · obtain ⟨payload, received, read⟩ := bind_eq_ok_iff.1 h
    have brought := shallow payload (Network.brings_of_reception received)
    have data := depth_of_readPayload read
    omega
  · cases h

/-- The data of an answer are hardly deeper than what the network brings. -/
theorem layered_of_respond (h : ((respond source query).perform true network).1 = .ok r) :
    ∃ v, r.payload = .layered v ∧ ∀ bound, network.Within bound → v.depth ≤ max bound 5 := by
  rw [respond] at h
  split at h
  · cases h
  · rw [Plan.perform_andThen] at h
    obtain ⟨finding, found, replied⟩ := bind_eq_ok_iff.1 h
    obtain ⟨text, -, replied⟩ := bind_eq_ok_iff.1 replied
    cases replied
    refine ⟨finding.data.data, rfl, fun bound shallow => ?_⟩
    rcases data_of_lookup found with live | own
    · have data := depth_of_fetch live shallow
      omega
    · have data := depth_of_simulate own
      omega

end Depth

inductive Answered (word : String) : Except Failure Value → Except Failure Reply → Prop
  | live {first : Value} {rest : List Value} {e : Entry} {text : String}
      (read : Entry.ofValue first word false = .ok e) (shown : e.render = .ok text) :
    Answered word (.ok (.list (first :: rest))) (.ok ⟨text, .layered e.data⟩)
  | backup {received : Except Failure Value} {e : Entry} {text : String}
      (readable : received ≠ .error .tooDeep)
      (useless : ∀ first rest, received = .ok (.list (first :: rest)) → ¬ Entry.Usable first)
      (made : simulate word = .ok e) (own : OwnEntry word e) (shown : e.render = .ok text) :
    Answered word received (.ok ⟨text ++ "\n" ++ note, .layered e.data⟩)
  /-- A related word that is to be shown is no text. -/
  | unshown {first : Value} {rest : List Value} {e : Entry}
      (read : Entry.ofValue first word false = .ok e) (unshowable : e.Unshowable) :
    Answered word (.ok (.list (first :: rest))) (.error (.mismatch .wrongKind))
  | tooDeep : Answered word (.error .tooDeep) (.error .tooDeep)

/-- What a live dictionary makes of what it receives for a word. -/
def settle (word : String) (received : Except Failure Value) : Except Failure Reply :=
  settleLookup (simulate word) (received >>= readPayload word) >>= reply

theorem readPayload_of_ofValue {first : Value} {rest : List Value}
    (read : Entry.ofValue first word false = .ok e) :
    readPayload word (.list (first :: rest)) = .ok (some e) := by
  rw [readPayload, read]

/-- Whatever comes back without a usable entry at its head is as good as nothing. -/
theorem lacks_readPayload {payload : Value}
    (useless : ∀ first rest, payload = .list (first :: rest) → ¬ Entry.Usable first) :
    Lacks (readPayload word payload) := by
  unfold readPayload
  split
  · rename_i first rest
    split
    · rename_i e read
      exact absurd (Entry.exists_ofValue_iff.1 ⟨e, read⟩) (useless first rest rfl)
    · exact .inr ⟨_, rfl, _, _, _, rfl⟩
  · exact .inl rfl

theorem settle_of_lacks {text : String} (made : simulate word = .ok e) (shown : e.render = .ok text)
    (h : Lacks (received >>= readPayload word)) :
    settle word received = .ok ⟨text ++ "\n" ++ note, .layered e.data⟩ := by
  rw [settle, settleLookup_of_lacks h, made]
  change reply ⟨e, true⟩ = _
  rw [reply, shown]
  rfl

theorem settle_of_read {first : Value} {rest : List Value} {own : Entry}
    (made : simulate word = .ok own) (read : Entry.ofValue first word false = .ok e) :
    settle word (.ok (.list (first :: rest))) = reply ⟨e, false⟩ := by
  rw [settle, made, ok_bind, readPayload_of_ofValue read]
  rfl

theorem answered_settle (word : String) (h : Reception received) :
    Answered word received (settle word received) := by
  obtain ⟨own, made, isOwn⟩ := exists_simulate word
  obtain ⟨text, shown⟩ := isOwn.exists_render
  cases h with
  | value payload =>
    by_cases usable : ∃ first rest, payload = .list (first :: rest) ∧ Entry.Usable first
    · obtain ⟨first, rest, rfl, usable⟩ := usable
      obtain ⟨e, read⟩ := Entry.exists_ofValue_iff.2 usable
      rw [settle_of_read made read, reply]
      by_cases unshowable : e.Unshowable
      · rw [Entry.render_eq_error_iff.2 ⟨rfl, unshowable⟩]
        exact .unshown read unshowable
      · obtain ⟨text, shown⟩ := Entry.exists_render unshowable
        rw [shown]
        exact .live read shown
    · have useless : ∀ first rest, payload = .list (first :: rest) → ¬ Entry.Usable first :=
        fun first rest same h => usable ⟨first, rest, same, h⟩
      rw [settle_of_lacks made shown (lacks_readPayload useless)]
      refine .backup nofun ?_ made isOwn shown
      rintro first rest ⟨⟩
      exact useless first rest rfl
  | unavailable message skill status =>
    rw [settle_of_lacks made shown (.inr ⟨_, rfl, _, _, _, rfl⟩)]
    exact .backup nofun nofun made isOwn shown
  | tooDeep =>
    rw [settle, made]
    exact .tooDeep

theorem perform_respond (live : source.live = true) (given : wordIn query ≠ []) :
    ((respond source query).perform true network).1 =
      let word := String.ofList (wordIn query)
      settle word (network.reception (request source word)) := by
  have connected := Source.connected_of_live live
  simp only [respond, word_of_given given, Plan.perform_andThen, live, perform_lookup, fetch,
    connected]
  rfl

/-- A live dictionary that is given a word and an open client, and whose request can be sent, fails
exactly where the source sends a value that is nested too deep, or begins with a usable entry in which
a related word that is to be shown is no text. A usable entry is otherwise shown, and any other
response, or none, is answered with the dictionary's own entry for the word and the note. -/
theorem degrades_to_backup (network : Network) (live : source.live = true)
    (given : wordIn query ≠ []) :
    let word := String.ofList (wordIn query)
    let received := network.reception (request source word)
    let result := ((respond source query).perform true network).1
    (∀ failure, result = .error failure ↔
      failure = .tooDeep ∧ received = .error .tooDeep ∨
        failure = .mismatch .wrongKind ∧ ∃ first rest e, received = .ok (.list (first :: rest)) ∧
          Entry.ofValue first word false = .ok e ∧ e.Unshowable) ∧
    (∀ first rest, received = .ok (.list (first :: rest)) → Entry.Usable first →
      ∃ e, Entry.ofValue first word false = .ok e ∧
        (¬ e.Unshowable → ∃ text, e.render = .ok text ∧ result = .ok ⟨text, .layered e.data⟩)) ∧
    ((∀ first rest, received = .ok (.list (first :: rest)) → ¬ Entry.Usable first) →
      received = .error .tooDeep ∨
        ∃ e text, simulate word = .ok e ∧ OwnEntry word e ∧ e.render = .ok text ∧
          result = .ok ⟨text ++ "\n" ++ note, .layered e.data⟩) := by
  intro word received result
  have answered : Answered word received result := by
    rw [show result = settle word received from perform_respond live given]
    exact answered_settle word (network.reception_get _)
  clear_value result received
  refine ⟨fun failure => ⟨?_, ?_⟩, ?_, ?_⟩
  · rintro rfl
    cases answered with
    | unshown read unshowable => exact .inr ⟨rfl, _, _, _, rfl, read, unshowable⟩
    | tooDeep => exact .inl ⟨rfl, rfl⟩
  · rintro (⟨rfl, rfl⟩ | ⟨rfl, first, rest, e, rfl, read, unshowable⟩)
    · cases answered with
      | backup readable => exact absurd rfl readable
      | tooDeep => rfl
    · cases answered with
      | live read' shown =>
        cases read'.symm.trans read
        cases shown.symm.trans (Entry.render_eq_error_iff.2 ⟨rfl, unshowable⟩)
      | backup _ useless =>
        exact absurd (Entry.exists_ofValue_iff.1 ⟨e, read⟩) (useless first rest rfl)
      | unshown => rfl
  · rintro first rest rfl usable
    cases answered with
    | live read shown => exact ⟨_, read, fun _ => ⟨_, shown, rfl⟩⟩
    | backup _ useless => exact absurd usable (useless first rest rfl)
    | unshown read unshowable => exact ⟨_, read, fun showable => absurd unshowable showable⟩
  · intro useless
    cases answered with
    | live read => exact absurd (Entry.exists_ofValue_iff.1 ⟨_, read⟩) (useless _ _ rfl)
    | backup _ _ made own shown => exact .inr ⟨_, _, made, own, shown, rfl⟩
    | unshown read => exact absurd (Entry.exists_ofValue_iff.1 ⟨_, read⟩) (useless _ _ rfl)
    | tooDeep => exact .inl rfl

def plain : Source := .ofConfig [] true defaultUrl

theorem degrades_to_backup_run :
    plain.live = true ∧ wordIn " Run it!" ≠ [] ∧
    ∃ e text, simulate "run" = .ok e ∧ OwnEntry "run" e ∧ e.render = .ok text ∧
      ((respond plain " Run it!").perform true ⟨[.failed "no route"], []⟩).1 =
        .ok ⟨text ++ "\n" ++ note, .layered e.data⟩ := by
  have live : plain.live = true := by decide +kernel
  have given : wordIn " Run it!" ≠ [] := by decide +kernel
  have word : String.ofList (wordIn " Run it!") = "run" := by decide +kernel
  obtain ⟨-, -, standIn⟩ := degrades_to_backup ⟨[.failed "no route"], []⟩ live given
  refine ⟨live, given, ?_⟩
  rw [word] at standIn
  rcases standIn nofun with failed | answered
  · cases failed
  · exact answered

def numberSynonym : String :=
  "[\x7b\"meanings\":[\x7b\"definitions\":[\x7b\"definition\":\"d\"\x7d]\x7d]," ++
    "\"synonyms\":[1]\x7d]"

/-- The entry can be read, but not shown, and the dictionary's own entry does not stand in for it. -/
theorem respond_numberSynonym :
    ((respond plain "run").perform true
      ⟨[.received 200 (numberSynonym.toList.map Char.toNat)], []⟩).1 =
      .error (.mismatch .wrongKind) :=
  eq_error_of_fault? (by decide +kernel)

end Switchboard.Dictionary
