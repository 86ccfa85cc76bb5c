import ShuffleFabric.Incarnation
import ShuffleFabric.Inspection
import ShuffleFabric.Topology.Requirement

/-!
# ShuffleFabric.StateChange

What a successful `set_participant_state` is worth.

The change travels as a participant record: the topology registers the record and then
sets its state, unless that state is `Active`.  A registration by an incarnation that is
there already leaves the participant as it is, so a change to `Active` is answered with
success and changes nothing.
-/

namespace ShuffleFabric

open Lib Action

namespace Topology

/-! ## The records behind a change -/

/-- The state a participant is registered in. -/
def stateOf (t : Topology) (kind : ParticipantKind) (id : UInt64) : Option ParticipantState :=
  (t.roster kind id).map (·.state)

/-- The records of one topology are those of another with the state of one participant
replaced. -/
structure Replaces (t : Topology) (kind : ParticipantKind) (id : UInt64) (state : ParticipantState)
    (t' : Topology) : Prop where
  producers : t'.producers = t.producers.map fun p =>
    if kind = .producer ∧ p.id = id then { p with state } else p
  consumers : t'.consumers = t.consumers.map fun c =>
    if kind = .consumer ∧ c.id = id then { c with state } else c
  selections : t'.selections = t.selections

/-- Overwriting the only record with its key is mapping over all of them. -/
theorem map_update_eq_store {α : Type} {key : α → UInt64} {l : List α} (hs : Sorted key l) {b : α}
    (hb : b ∈ l) (update : α → α) (hkey : key (update b) = key b) :
    l.map (fun c => if key c = key b then update c else c) = store key l (update b) := by
  rw [store_eq_map hs hb hkey.symm]
  refine List.map_congr_left fun c hc => ?_
  rw [hkey]
  split
  · next heq =>
      have hfind : search key l (key b) = some b := (search_eq_some_iff hs).mpr ⟨hb, rfl⟩
      have hfind' : search key l (key b) = some c := (search_eq_some_iff hs).mpr ⟨hc, heq⟩
      rw [Option.some.inj (hfind'.symm.trans hfind)]
  · rfl

/-- Overwriting a record with itself changes nothing. -/
theorem store_self {α : Type} {key : α → UInt64} {l : List α} (hs : Sorted key l) {b : α}
    (hb : b ∈ l) : store key l b = l := by
  have h := map_update_eq_store hs hb id rfl
  rw [← show store key l (id b) = store key l b from rfl, ← h]
  simp

theorem replaces_setProducerState {t t' : Topology} (ht : t.Consistent) {id : ProducerId}
    {incarnation : IncarnationId} {state : ParticipantState}
    (h : t.setProducerState id incarnation state = .ok t') : Replaces t .producer id state t' := by
  obtain ⟨p, hfind, -, hcases⟩ := setProducerState_cases h
  obtain rfl := id_of_findProducer hfind
  have hmap := map_update_eq_store ht.producers_sorted (mem_of_findProducer hfind)
    (fun p => { p with state }) rfl
  rcases hcases with ⟨rfl, rfl⟩ | ⟨-, rfl⟩
  · refine ⟨?_, by simp, rfl⟩
    simp only [true_and]
    rw [hmap, show ({ p with state := p.state } : ProducerRecord) = p from rfl,
      store_self ht.producers_sorted (mem_of_findProducer hfind)]
  · refine ⟨?_, by simp [putProducer, bumpGeneration, rebuildActiveProducers], rfl⟩
    simp only [true_and]
    rw [hmap]
    rfl

theorem replaces_setConsumerState {t t' : Topology} (ht : t.Consistent) {id : ConsumerId}
    {incarnation : IncarnationId} {state : ParticipantState}
    (h : t.setConsumerState id incarnation state = .ok t') : Replaces t .consumer id state t' := by
  obtain ⟨c, hfind, -, hcases⟩ := setConsumerState_cases h
  obtain rfl := id_of_findConsumer hfind
  have hmap := map_update_eq_store ht.consumers_sorted (mem_of_findConsumer hfind)
    (fun c => { c with state }) rfl
  rcases hcases with ⟨rfl, rfl⟩ | ⟨-, rfl⟩
  · refine ⟨by simp, ?_, rfl⟩
    simp only [true_and]
    rw [hmap, show ({ c with state := c.state } : ConsumerRecord) = c from rfl,
      store_self ht.consumers_sorted (mem_of_findConsumer hfind)]
  · refine ⟨by simp [producers_shifted], ?_, selections_shifted t c state⟩
    simp only [true_and]
    rw [hmap, consumers_shifted]

/-- Nothing changes where the state is what it was. -/
theorem replaces_refl {t : Topology} (ht : t.Consistent) {kind : ParticipantKind} {id : UInt64}
    {state : ParticipantState} (h : t.stateOf kind id = some state) : Replaces t kind id state t := by
  cases kind with
  | producer =>
      simp only [stateOf, roster, Option.map_map, Option.map_eq_some_iff, Function.comp_apply] at h
      obtain ⟨p, hfind, rfl⟩ := h
      obtain rfl := id_of_findProducer hfind
      refine ⟨?_, by simp, rfl⟩
      have hmap := map_update_eq_store ht.producers_sorted (mem_of_findProducer hfind)
        (fun q => { q with state := p.state }) rfl
      simp only [true_and]
      exact (hmap.trans (store_self ht.producers_sorted (mem_of_findProducer hfind))).symm
  | consumer =>
      simp only [stateOf, roster, Option.map_map, Option.map_eq_some_iff, Function.comp_apply] at h
      obtain ⟨c, hfind, rfl⟩ := h
      obtain rfl := id_of_findConsumer hfind
      refine ⟨by simp, ?_, rfl⟩
      have hmap := map_update_eq_store ht.consumers_sorted (mem_of_findConsumer hfind)
        (fun d => { d with state := c.state }) rfl
      simp only [true_and]
      exact (hmap.trans (store_self ht.consumers_sorted (mem_of_findConsumer hfind))).symm

/-- A state change took effect: the participant has the state, no other field of any record
changed, and what the topology answers is what the new records imply. -/
structure TakesEffect (t : Topology) (kind : ParticipantKind) (id : UInt64)
    (state : ParticipantState) (t' : Topology) : Prop where
  changed : t'.stateOf kind id = some state
  records : Replaces t kind id state t'
  patterns : ∀ i, t'.pattern i = t.pattern i
  planned : ∀ edges, t'.plannedEdgeCount = .ok edges ↔ edges.toNat = t'.requiredEdges
  owner : ∀ p owner, t'.ownerOf p = .ok owner ↔ t'.impliedOwner p = some owner
  activeProducers :
    t'.activeProducerCount = UInt32.ofNat (t'.producers.countP (holdsAuthority ·.state))
  activeConsumers :
    t'.activeConsumerCount = UInt32.ofNat (t'.consumers.countP (holdsAuthority ·.state))

theorem takesEffect_of_replaces {t t' : Topology} (ht' : t'.Consistent) {kind : ParticipantKind}
    {id : UInt64} {state : ParticipantState} (hstate : t'.stateOf kind id = some state)
    (h : Replaces t kind id state t') : TakesEffect t kind id state t' where
  changed := hstate
  records := h
  patterns i := by rw [pattern_eq, pattern_eq, h.selections]
  planned edges := plannedEdgeCount_eq_ok ht'
  owner p owner := ownerOf_eq_ok ht'
  activeProducers := by
    rw [activeProducerCount, ht'.active, List.length_map, List.countP_eq_length_filter]
  activeConsumers := rfl

end Topology

namespace Coordinator

/-! ## A successful change -/

/-- What a state record leaves behind: a change to `Active` leaves everything as it was. -/
theorem place_stateChange {c : Coordinator} {t t' : Topology} (ht : t.Consistent)
    {kind : ParticipantKind} {id : UInt64} {incarnation : IncarnationId} {state : ParticipantState}
    (hcheck : t.checkParticipantState kind id incarnation = .ok ())
    (h : place t (c.stateChange t kind id incarnation state) = .ok t') :
    if state = .active then t' = t
    else t'.stateOf kind id = some state ∧ t.Replaces kind id state t' := by
  obtain ⟨m, hm, hrepeats⟩ := stateChange_repeats (c := c) state hcheck
  obtain ⟨registered, hregister, h⟩ := bind_eq_ok.mp h
  obtain rfl := registerFrom_of_repeats ht hm hrepeats hregister
  split
  · next hactive =>
      rw [if_pos (show (c.stateChange registered kind id incarnation state).state = .active from
        hactive)] at h
      cases h
      rfl
  · next hidle =>
      rw [if_neg (show ¬(c.stateChange registered kind id incarnation state).state = .active from
        hidle)] at h
      obtain ⟨n, -, -, hroster⟩ := setStateFrom_roster ht h
      constructor
      · have hmember : t'.roster kind id = some { n with state } := by
          rw [hroster]
          exact Roster.put_same _ _ _ _
        rw [Topology.stateOf, hmember]
        rfl
      · cases kind with
        | producer => exact Topology.replaces_setProducerState ht h
        | consumer => exact Topology.replaces_setConsumerState ht h

/-- A successful state change takes effect exactly if it asks for another state than
`Active`, or the participant is active already. -/
theorem state_change_takes_effect {limits : Limits} {sink : Option Sink}
    {events : List (Event Coordinator Move (Result Reply))} {c : Coordinator}
    (run : Run move (make limits sink) events c) {kind : ParticipantKind} {id : UInt64}
    {incarnation : IncarnationId} {state : ParticipantState} {reply : Reply}
    (h : (c.move (.call (.setParticipantState kind id incarnation state))).1 = .ok reply) :
    ∃ t t', c.topology = some t ∧
      (c.move (.call (.setParticipantState kind id incarnation state))).2.topology = some t' ∧
      (t.TakesEffect kind id state t' ↔ (state = .active → t.stateOf kind id = some .active)) := by
  have hc := regular_of_run run
  have hregular := hc.move (.call (.setParticipantState kind id incarnation state))
  have htransition := perform_transition hc.inside hc.consistent
    (.setParticipantState kind id incarnation state)
  rw [show c.move (.call (.setParticipantState kind id incarnation state)) =
    c.perform (.setParticipantState kind id incarnation state) from rfl] at h hregular ⊢
  generalize (c.perform (.setParticipantState kind id incarnation state)).1 = answer
    at h htransition
  generalize (c.perform (.setParticipantState kind id incarnation state)).2 = c'
    at hregular htransition ⊢
  cases htransition with
  | refused => cases h
  | unstored => cases h
  | registered _ record t t' hregistration => cases hregistration
  | stateSet _ _ _ _ t t' hopen hcheck hanswer hplace =>
      have ht := (ensureOpen_ok hopen).2
      have hafter := topology_joinedBy (c.persisted (DurableRecord.participant
        (c.stateChange t kind id incarnation state)).encode) t t'
        (c.stateChange t kind id incarnation state)
      have hconsistent := hc.consistent t ht
      have hplaced := place_stateChange hconsistent hcheck hplace
      refine ⟨t, t', ht, hafter, ?_⟩
      split at hplaced
      · next hactive =>
          subst hactive
          subst hplaced
          exact ⟨fun heffect _ => heffect.changed, fun hstate =>
            Topology.takesEffect_of_replaces hconsistent (hstate rfl)
              (Topology.replaces_refl hconsistent (hstate rfl))⟩
      · next hidle =>
          exact ⟨fun _ hactive => absurd hactive hidle, fun _ =>
            Topology.takesEffect_of_replaces (hregular.consistent t' hafter) hplaced.1 hplaced.2⟩

/-- Producer 1 is suspected, and withdrawn after that. -/
theorem state_change_takes_effect_small :
    let events := [Move.call (.openShuffle (smallOpen 1)), .call (.registerProducer 1 1 []),
      .call (.setParticipantState .producer 1 1 .suspect)]
    let c := final move (make {} (some acceptAll)) events
    ∃ t t', c.topology = some t ∧
      (c.move (.call (.setParticipantState .producer 1 1 .withdrawn))).2.topology = some t' ∧
      (t.TakesEffect .producer 1 .withdrawn t' ↔
        (ParticipantState.withdrawn = .active → t.stateOf .producer 1 = some .active)) := by
  intro events c
  have hanswer : (c.move (.call (.setParticipantState .producer 1 1 .withdrawn))).1 =
      .ok .done := by
    decide +kernel
  exact state_change_takes_effect (Run.of_inputs move (make {} (some acceptAll)) events) hanswer

/-- Producer 1 was suspected.  The change back to `Active` is answered with success and
made durable, and producer 1 stays suspect. -/
theorem state_change_without_effect :
    ¬∀ (limits : Limits) (sink : Option Sink)
      (events : List (Event Coordinator Move (Result Reply))) (c : Coordinator),
      Run move (make limits sink) events c → ∀ kind id incarnation state reply,
      (c.move (.call (.setParticipantState kind id incarnation state))).1 = .ok reply →
      ∃ t', (c.move (.call (.setParticipantState kind id incarnation state))).2.topology = some t' ∧
        t'.stateOf kind id = some state := by
  intro h
  let inputs := [Move.call (.openShuffle (smallOpen 1)), .call (.registerProducer 1 1 []),
    .call (.setParticipantState .producer 1 1 .suspect)]
  have hanswer : ((final move (make {} (some acceptAll)) inputs).move
      (.call (.setParticipantState .producer 1 1 .active))).1 = .ok .done := by
    decide +kernel
  have hstays : ((final move (make {} (some acceptAll)) inputs).move
      (.call (.setParticipantState .producer 1 1 .active))).2.topology.bind
        (·.stateOf .producer 1) = some .suspect := by
    decide +kernel
  obtain ⟨t', ht', hstate⟩ := h {} (some acceptAll) _ _ (Run.of_inputs move _ inputs) _ _ _ _ _ hanswer
  rw [ht', Option.bind_some, hstate] at hstays
  cases hstays

end Coordinator

end ShuffleFabric
