import Switchboard.Proofs.Routing.Silence
import Switchboard.Proofs.Skill.Weather

/-!
# Which requests are made

A text leads to one request at most: when the skill that it goes to has a live source and is given
something to look up. So the requests of a run can be told from its texts, whatever the network
replies.
-/

namespace Switchboard

variable {α β : Type} {argument : String} {request : Request}

namespace Plan

def request? : Plan α → Option Request
  | answer _ => none
  | ask request _ => some request

theorem request?_andThen (plan : Plan α) (f : Except Failure α → Except Failure β) :
    (plan.andThen f).request? = plan.request? := by
  cases plan <;> rfl

theorem requests_perform (plan : Plan α) (isOpen : Bool) (network : Network) :
    (plan.perform isOpen network).2.requests = network.requests ++ plan.request?.toList := by
  cases plan with
  | answer result => exact (List.append_nil _).symm
  | ask request next => exact network.requests_get isOpen request

end Plan

theorem request?_lookup (live : Bool) (fetch : Plan (Option α)) (simulation : Except Failure α) :
    (lookup live fetch simulation).request? = if live then fetch.request? else none := by
  cases live with
  | false => rfl
  | true =>
    rw [lookup, if_pos rfl, Plan.request?_andThen]
    rfl

namespace Weather

theorem request?_respond (weather : Weather) (argument : String) :
    (weather.respond argument).request? =
      if weather.live = true ∧ placeIn argument ≠ [] then
        some (weather.request (String.ofList (placeIn argument)))
      else none := by
  rw [respond]
  by_cases given : placeIn argument = []
  · rw [city_eq_error given, if_neg (fun h => h.2 given)]
    rfl
  · rw [city_of_given given]
    dsimp only
    rw [Plan.map, Plan.request?_andThen, request?_lookup]
    by_cases live : weather.live = true
    · rw [if_pos live, if_pos ⟨live, given⟩, fetch, if_pos (connected_of_live live)]
      rfl
    · rw [if_neg live, if_neg (fun h => live h.1)]

end Weather

namespace Dictionary

theorem request?_respond (source : Source) (argument : String) :
    (respond source argument).request? =
      if source.live = true ∧ wordIn argument ≠ [] then
        some (Dictionary.request source (String.ofList (wordIn argument)))
      else none := by
  rw [respond]
  by_cases given : wordIn argument = []
  · rw [word_eq_error given, if_neg (fun h => h.2 given)]
    rfl
  · rw [word_of_given given]
    dsimp only
    rw [Plan.request?_andThen, request?_lookup]
    by_cases live : source.live = true
    · rw [if_pos live, if_pos ⟨live, given⟩, fetch, if_pos (Source.connected_of_live live)]
      rfl
    · rw [if_neg live, if_neg (fun h => live h.1)]

end Dictionary

namespace Service

/-- What a service asks a live source for, given an argument. -/
inductive Asks : Service → String → Request → Prop
  | weather {w : Weather} {argument : String} (keyed : w.apiKey.truthy = true)
      (live : w.source.live = true) (given : Weather.placeIn argument ≠ []) :
    Asks (.weather w) argument ⟨w.source.baseUrl ++ "/weather",
      [("q", .text (String.ofList (Weather.placeIn argument))), ("units", w.units),
        ("appid", w.apiKey)]⟩
  | dictionary {source : Source} {argument : String} (live : source.live = true)
      (given : Dictionary.wordIn argument ≠ []) :
    Asks (.dictionary source) argument ⟨source.baseUrl ++ "/api/v2/entries/en/" ++
      String.ofList (Text.segment (Dictionary.wordIn argument)), []⟩

theorem request?_respond_eq_some_iff {service : Service} :
    (service.skill.respond argument).request? = some request ↔ service.Asks argument request := by
  cases service with
  | weather w =>
    change (w.respond argument).request? = some request ↔ _
    rw [Weather.request?_respond]
    constructor
    · intro made
      split at made
      · rename_i asks
        obtain ⟨live, given⟩ := asks
        rw [Weather.live, Bool.and_eq_true] at live
        cases made
        exact .weather live.1 live.2 given
      · cases made
    · rintro ⟨keyed, live, given⟩
      rw [if_pos ⟨by rw [Weather.live, keyed, live]; rfl, given⟩]
      rfl
  | calculator config =>
    constructor
    · intro made
      cases made
    · intro asks
      cases asks
  | dictionary source =>
    change (Dictionary.respond source argument).request? = some request ↔ _
    rw [Dictionary.request?_respond]
    constructor
    · intro made
      split at made
      · rename_i asks
        cases made
        rw [Dictionary.request, String.toList_ofList]
        exact .dictionary asks.1 asks.2
      · cases made
    · rintro (_ | ⟨live, given⟩)
      rw [if_pos ⟨live, given⟩, Dictionary.request, String.toList_ofList]

end Service

namespace Assistant

variable {assistant : Assistant} {text : String}

def request? (assistant : Assistant) (text : String) : Option Request :=
  (assistant.matchText text).bind fun decision =>
    (decision.skill.respond decision.argument).request?

theorem requests_route (assistant : Assistant) (text : String) (network : Network) :
    (assistant.route text network).2.requests =
      network.requests ++ (assistant.request? text).toList := by
  rw [request?]
  cases chosen : assistant.matchText text with
  | none =>
    rw [route, chosen]
    exact (List.append_nil _).symm
  | some decision =>
    rw [route_of_matchText chosen]
    exact Plan.requests_perform _ _ _

theorem requests_routeAll (assistant : Assistant) (texts : List String) (network : Network) :
    (assistant.routeAll texts network).2.requests =
      network.requests ++ texts.filterMap assistant.request? := by
  induction texts generalizing network with
  | nil => exact (List.append_nil _).symm
  | cons text texts ih =>
    change (assistant.routeAll texts (assistant.route text network).2).2.requests = _
    rw [ih, requests_route, List.append_assoc, List.filterMap_cons]
    cases assistant.request? text <;> rfl

/-- A built assistant makes the request that a text leads to and no other one, whatever the network
replies. A text leads to a request exactly where it goes to a service that has a live source (for the
weather also a key) and names something to ask for: then the request asks for that. So a run makes as
many requests as it has such texts, in their order. -/
theorem requests_of_run {config : Value} {clock : Int}
    (built : build config clock = .ok assistant) :
    (∀ text network, (assistant.route text network).2.requests =
      network.requests ++ (assistant.request? text).toList) ∧
    (∀ texts network,
      (assistant.routeAll texts network).2.requests =
        network.requests ++ texts.filterMap assistant.request? ∧
      (assistant.routeAll texts network).2.requests.length =
        network.requests.length + texts.countP fun text => (assistant.request? text).isSome) ∧
    ∃ blueprint, Blueprint.ofConfig config clock = .ok blueprint ∧
      ∀ text request, assistant.request? text = some request ↔
        ∃ decision, assistant.matchText text = some decision ∧
          ∃ service ∈ blueprint.services, decision.skill = service.skill ∧
            service.Asks decision.argument request := by
  refine ⟨requests_route assistant, fun texts network => ⟨requests_routeAll _ _ _, ?_⟩, ?_⟩
  · rw [requests_routeAll, List.length_append, List.length_filterMap_eq_countP]
  · obtain ⟨blueprint, made, built⟩ := bind_eq_ok_iff.1 built
    cases built
    refine ⟨blueprint, made, fun text request => ?_⟩
    rw [request?, Option.bind_eq_some_iff]
    constructor
    · rintro ⟨decision, chosen, asked⟩
      obtain ⟨service, known, named⟩ := exists_service_of_matchText rfl chosen
      rw [named] at asked
      exact ⟨decision, chosen, service, known, named,
        Service.request?_respond_eq_some_iff.1 asked⟩
    · rintro ⟨decision, chosen, service, -, named, asks⟩
      refine ⟨decision, chosen, ?_⟩
      rw [named]
      exact Service.request?_respond_eq_some_iff.2 asks

/-- The dictionary is asked for a word, and nothing is asked for a greeting. -/
theorem requests_of_run_defining :
    build Conversation.defining 0 = .ok Conversation.definer ∧
    (Conversation.definer.routeAll ["/define Run!", "hello"] ⟨[], []⟩).2.requests =
      [⟨"https://api.dictionaryapi.dev/api/v2/entries/en/run", []⟩] := by
  obtain ⟨-, runs, -⟩ := requests_of_run Conversation.build_defining
  refine ⟨Conversation.build_defining, ?_⟩
  rw [(runs _ _).1]
  decide +kernel

end Assistant

end Switchboard
