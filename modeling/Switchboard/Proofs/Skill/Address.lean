import Switchboard.Proofs.Routing.Requests
import Switchboard.Proofs.Text.Segment

/-!
# The address of a word

The dictionary asks for a word under an address that ends with the word as a segment. The segment is read
as the word, so a word has an address of its own, and whatever characters it has they do not lead to
another path.
-/

namespace Switchboard.Dictionary

open Text

variable {source : Source} {query : String} {request : Request} {w : String}

theorem word_eq_ok_iff :
    Dictionary.word query = .ok w ↔ wordIn query ≠ [] ∧ w = String.ofList (wordIn query) := by
  by_cases given : wordIn query = []
  · rw [word_eq_error given]
    exact ⟨nofun, fun h => absurd given h.1⟩
  · rw [word_of_given given]
    constructor
    · rintro ⟨⟩
      exact ⟨given, rfl⟩
    · rintro ⟨-, rfl⟩
      rfl

theorem request?_respond_eq_some_iff : (respond source query).request? = some request ↔
    source.live = true ∧ ∃ w, Dictionary.word query = .ok w ∧ Dictionary.request source w = request := by
  rw [request?_respond]
  constructor
  · intro made
    split at made
    · rename_i asks
      exact ⟨asks.1, _, word_of_given asks.2, Option.some.inj made⟩
    · cases made
  · rintro ⟨live, w, named, rfl⟩
    obtain ⟨given, rfl⟩ := word_eq_ok_iff.1 named
    rw [if_pos ⟨live, given⟩]

/-- A segment stands for a word, and for no step on a path. -/
structure Spells (segment : List Char) (w : String) : Prop where
  given : segment ≠ []
  shape : IsSegment segment
  enclosed : '/' ∉ segment ∧ '?' ∉ segment ∧ '#' ∉ segment
  /-- A single dot leads nowhere, and two dots lead out of the folder. -/
  step : segment ≠ ['.'] ∧ segment ≠ ['.', '.']
  read : ofSegment? segment = some w.toList

/-- No word that is searched for ends with a dot. -/
theorem spells_segment (named : Dictionary.word query = .ok w) : Spells (segment w.toList) w := by
  obtain ⟨given, rfl⟩ := word_eq_ok_iff.1 named
  rw [String.toList_ofList]
  have read := ofSegment?_segment (wordIn query)
  have last := last_dropEndWhile isOuterSign
    (((words (lower (trim query.toList))).head?.getD []).dropWhile isOuterSign)
  rw [← trimWhile, ← wordIn] at last
  constructor
  · intro none
    rw [none] at read
    exact given (Option.some.inj read).symm
  · exact isSegment_segment _
  · exact (isSegment_segment _).enclosed
  · constructor
    · intro dot
      rw [dot] at read
      have same : ['.'] = wordIn query := Option.some.inj read
      cases last '.' (by rw [← same]; rfl)
    · intro dots
      rw [dots] at read
      have same : ['.', '.'] = wordIn query := Option.some.inj read
      cases last '.' (by rw [← same]; rfl)
  · rw [read, String.toList_ofList]

theorem word_of_url {w' : String}
    (same : (Dictionary.request source w).url = (Dictionary.request source w').url) : w = w' := by
  have parts := congrArg String.toList same
  simp only [Dictionary.request, String.toList_append, String.toList_ofList, List.append_assoc]
    at parts
  exact String.toList_inj.1
    (segment_injective (List.append_cancel_left (List.append_cancel_left parts)))

/-- The dictionary makes the request of its plan and no other one. It asks under the address of its source
and a segment that stands for the word that it searches for. Other queries ask under the same address
exactly if they are searched for the same word. -/
theorem asks_for_word (source : Source) (query : String) :
    (∀ (isOpen : Bool) (network : Network),
      ((respond source query).perform isOpen network).2.requests =
        network.requests ++ (respond source query).request?.toList) ∧
    (∀ request, (respond source query).request? = some request →
      ∃ w segment, Dictionary.word query = .ok w ∧ Spells segment w ∧
        request = ⟨source.baseUrl ++ "/api/v2/entries/en/" ++ String.ofList segment, []⟩ ∧
        ∀ query' request', (respond source query').request? = some request' →
          (request'.url = request.url ↔ Dictionary.word query' = .ok w)) := by
  refine ⟨fun isOpen network => Plan.requests_perform _ isOpen network, fun request made => ?_⟩
  obtain ⟨-, w, named, rfl⟩ := request?_respond_eq_some_iff.1 made
  refine ⟨w, segment w.toList, named, spells_segment named, rfl, fun query' request' made' => ?_⟩
  obtain ⟨-, w', named', rfl⟩ := request?_respond_eq_some_iff.1 made'
  rw [named']
  constructor
  · intro same
    rw [word_of_url same]
  · rintro ⟨⟩
    rfl

/-- What is left of a way out of the folder is one segment. -/
theorem asks_for_word_path :
    (respond plain "../A/b?c").request? =
      some ⟨"https://api.dictionaryapi.dev/api/v2/entries/en/%2Fa%2Fb%3Fc", []⟩ ∧
    ∃ segment, Spells segment "/a/b?c" ∧
      "https://api.dictionaryapi.dev/api/v2/entries/en/%2Fa%2Fb%3Fc" =
        plain.baseUrl ++ "/api/v2/entries/en/" ++ String.ofList segment := by
  have made : (respond plain "../A/b?c").request? =
      some ⟨"https://api.dictionaryapi.dev/api/v2/entries/en/%2Fa%2Fb%3Fc", []⟩ := by
    decide +kernel
  have word : Dictionary.word "../A/b?c" = .ok "/a/b?c" := by decide +kernel
  obtain ⟨w, segment, named, spells, same, -⟩ :=
    (asks_for_word plain "../A/b?c").2 _ made
  obtain rfl : w = "/a/b?c" := Except.ok.inj (named.symm.trans word)
  exact ⟨made, segment, spells, congrArg Request.url same⟩

end Switchboard.Dictionary
