import ShuffleFabric.Coordinator
import ShuffleFabric.Topology.Consistent

/-!
# ShuffleFabric.Membership

Membership without the tables: who is registered, with what, in which state.

A `Roster` maps a participant to its registration.  It is what the topology is for, and
all that the laws of incarnations and of revalidation speak about; `enter` is what a
participant record does to it.  The pattern table, the sorted vectors and the generation
of a `Topology` refine it (`registerFrom_roster`, `setStateFrom_roster`).
-/

namespace ShuffleFabric

open Lib

/-- A registered participant.  A selection is known by its canonical key; a producer has
none. -/
structure Member where
  incarnation : IncarnationId
  state : ParticipantState
  endpoint : Bytes
  key : Bytes := []
  deriving DecidableEq, Repr

/-- Who is registered. -/
abbrev Roster := ParticipantKind → UInt64 → Option Member

namespace ParticipantRecord

/-- The key of the selection a record carries. -/
def key (record : ParticipantRecord) : Bytes :=
  match record.kind with
  | .producer => []
  | .consumer => record.selection.canonicalKey

/-- A registration by this record that takes effect. -/
def fresh (record : ParticipantRecord) : Member :=
  ⟨record.incarnation, .active, record.endpoint, record.key⟩

end ParticipantRecord

/-- Does a record repeat the registration it finds? -/
def Member.Repeats (m : Member) (record : ParticipantRecord) : Prop :=
  m.incarnation = record.incarnation ∧ m.endpoint = record.endpoint ∧ m.key = record.key

instance (m : Member) (record : ParticipantRecord) : Decidable (m.Repeats record) :=
  inferInstanceAs (Decidable (_ ∧ _))

/-- A participant that is not assumed to be alive. -/
def Member.demoted (m : Member) : Member :=
  if m.state = .active then { m with state := .suspect } else m

namespace Roster

/-- The roster a restart exposes. -/
def demoted (r : Roster) : Roster := fun kind id => (r kind id).map Member.demoted

/-- What a participant is once a record registered it. -/
def registered (m : Option Member) (record : ParticipantRecord) : Member :=
  match m with
  | some m => if m.Repeats record then m else record.fresh
  | none => record.fresh

/-- What a participant is once a record was applied to it. -/
def joined (m : Option Member) (record : ParticipantRecord) : Member :=
  if record.state = .active then registered m record
  else { registered m record with state := record.state }

/-- The roster with one participant replaced. -/
def put (r : Roster) (kind : ParticipantKind) (id : UInt64) (m : Member) : Roster :=
  fun kind' id' => if kind' = kind ∧ id' = id then some m else r kind' id'

/-- The roster once a participant record was applied. -/
def enter (r : Roster) (record : ParticipantRecord) : Roster :=
  r.put record.kind record.id (joined (r record.kind record.id) record)

theorem put_same (r : Roster) (kind : ParticipantKind) (id : UInt64) (m : Member) :
    r.put kind id m kind id = some m := by
  simp [put]

theorem put_other (r : Roster) {kind kind' : ParticipantKind} {id id' : UInt64} (m : Member)
    (h : ¬(kind' = kind ∧ id' = id)) : r.put kind id m kind' id' = r kind' id' := by
  simp [put, h]

/-- Putting back what is there changes nothing. -/
theorem put_eq_self {r : Roster} {kind : ParticipantKind} {id : UInt64} {m : Member}
    (h : r kind id = some m) : r.put kind id m = r := by
  funext kind' id'
  unfold put
  split
  · next heq => rw [heq.1, heq.2, h]
  · rfl

theorem put_put (r : Roster) (kind : ParticipantKind) (id : UInt64) (m m' : Member) :
    (r.put kind id m).put kind id m' = r.put kind id m' := by
  funext kind' id'
  unfold put
  split <;> rfl

end Roster

namespace Topology

/-- Who is registered in a topology. -/
def roster (t : Topology) : Roster
  | .producer, id => (t.findProducer id).map fun p => ⟨p.incarnation, p.state, p.endpoint, []⟩
  | .consumer, id => (t.findConsumer id).map fun c =>
      ⟨c.incarnation, c.state, c.endpoint, (t.pattern c.pattern).canonicalKey⟩

theorem roster_putProducer {t : Topology} (ht : t.Consistent) (record : ProducerRecord) :
    (t.putProducer record).roster =
      t.roster.put .producer record.id ⟨record.incarnation, record.state, record.endpoint, []⟩ := by
  funext kind id
  cases kind with
  | consumer => rfl
  | producer =>
      show (search ProducerRecord.id (store ProducerRecord.id t.producers record) id).map _ = _
      rw [search_store ht.producers_sorted]
      by_cases hid : id = record.id
      · rw [if_pos hid.symm, hid, Roster.put_same]
        rfl
      · rw [if_neg (Ne.symm hid), Roster.put_other _ _ (by simp [hid])]
        rfl

/-- The roster of a topology whose consumers were changed at one place. -/
theorem roster_storeConsumer {t t' : Topology} (ht : t.Consistent) {record : ConsumerRecord}
    (hproducers : t'.producers = t.producers)
    (hconsumers : t'.consumers = store ConsumerRecord.id t.consumers record)
    (hselections : ∀ (i : Nat) (entry : PartitionSelection × Bytes),
      t.selections[i]? = some entry → t'.selections[i]? = some entry) :
    t'.roster = t.roster.put .consumer record.id ⟨record.incarnation, record.state,
      record.endpoint, (t'.pattern record.pattern).canonicalKey⟩ := by
  funext kind id
  cases kind with
  | producer =>
      rw [Roster.put_other _ _ (by simp)]
      show (search ProducerRecord.id t'.producers id).map _ = _
      rw [hproducers]
      rfl
  | consumer =>
      show (search ConsumerRecord.id t'.consumers id).map _ = _
      rw [hconsumers, search_store ht.consumers_sorted]
      by_cases hid : id = record.id
      · rw [if_pos hid.symm, hid, Roster.put_same]
        rfl
      · rw [if_neg (Ne.symm hid), Roster.put_other _ _ (by simp [hid])]
        show Option.map _ (t.findConsumer id) = Option.map _ (t.findConsumer id)
        cases hfind : t.findConsumer id with
        | none => rfl
        | some c =>
            obtain ⟨-, -, -, hpattern⟩ := ht.consumers c (mem_of_findConsumer hfind)
            have hentry := List.getElem?_eq_getElem hpattern
            simp only [Option.map_some, pattern_eq, hentry, hselections _ _ hentry]

end Topology

namespace Coordinator

open ShuffleFabric.Topology

theorem consistent_registerFrom {t t' : Topology} {record : ParticipantRecord} (ht : t.Consistent)
    (h : registerFrom t record = .ok t') : t'.Consistent := by
  unfold registerFrom at h
  split at h
  · exact ht.registerProducer h
  · exact ht.registerConsumer h

theorem consistent_setStateFrom {t t' : Topology} {record : ParticipantRecord} (ht : t.Consistent)
    (h : setStateFrom t record = .ok t') : t'.Consistent := by
  unfold setStateFrom at h
  split at h
  · exact ht.setProducerState h
  · exact ht.setConsumerState h

theorem continues_registerFrom {t t' : Topology} {record : ParticipantRecord}
    (h : registerFrom t record = .ok t') : t.Continues t' := by
  unfold registerFrom at h
  split at h
  · exact continues_registerProducer h
  · exact continues_registerConsumer h

theorem continues_setStateFrom {t t' : Topology} {record : ParticipantRecord}
    (h : setStateFrom t record = .ok t') : t.Continues t' := by
  unfold setStateFrom at h
  split at h
  · exact continues_setProducerState h
  · exact continues_setConsumerState h

/-- The key of the pattern a consumer is registered under. -/
theorem canonicalKey_of_selections {t : Topology} (ht : t.Consistent) {i : Nat}
    {selection : PartitionSelection} {key : Bytes} (h : t.selections[i]? = some (selection, key)) :
    (t.pattern i).canonicalKey = key := by
  rw [pattern_eq, h]
  exact (ht.keys i _ h).1.symm

/-- A consumer that repeats its registration finds its pattern in the table. -/
theorem internPattern_of_repeated {t t₁ : Topology} (ht : t.Consistent) {c : ConsumerRecord}
    (hc : c ∈ t.consumers) {selection : PartitionSelection} {pattern : Nat}
    (hintern : t.internPattern selection = .ok (pattern, t₁)) :
    c.pattern = pattern ↔ (t.pattern c.pattern).canonicalKey = selection.canonicalKey := by
  obtain ⟨-, -, -, hlt⟩ := ht.consumers c hc
  obtain ⟨entry, hentry⟩ : ∃ entry, t.selections[c.pattern]? = some entry :=
    ⟨_, List.getElem?_eq_getElem hlt⟩
  obtain ⟨hkey, hindex⟩ := ht.keys _ _ hentry
  have hcanonical : (t.pattern c.pattern).canonicalKey = entry.2 := by
    rw [pattern_eq, hentry]
    exact hkey.symm
  rw [hcanonical]
  rcases internPattern_cases hintern with ⟨hfound, rfl⟩ | ⟨hnew, -, rfl, rfl⟩
  · constructor
    · rintro rfl
      obtain ⟨found, hfound⟩ := ht.index _ _ hfound
      rw [hentry] at hfound
      exact congrArg Prod.snd (Option.some.inj hfound)
    · intro heq
      rw [heq, hfound] at hindex
      exact (Option.some.inj hindex).symm
  · constructor
    · intro heq
      rw [selections, List.length_map] at hlt
      omega
    · intro heq
      rw [heq, hnew] at hindex
      cases hindex

/-- A registration is what `registered` says. -/
theorem registerFrom_roster {t t' : Topology} {record : ParticipantRecord} (ht : t.Consistent)
    (h : registerFrom t record = .ok t') :
    t'.roster = t.roster.put record.kind record.id
      (Roster.registered (t.roster record.kind record.id) record) := by
  unfold registerFrom at h
  split at h
  · next hkind =>
      obtain ⟨-, ⟨existing, hfind, hincarnation, hendpoint, rfl⟩ | ⟨hother, rfl⟩⟩ :=
        registerProducer_cases h
      · have hmember : t'.roster .producer record.id =
            some ⟨existing.incarnation, existing.state, existing.endpoint, []⟩ := by
          simp [roster, hfind]
        rw [hkind, hmember, Roster.registered, if_pos ⟨hincarnation, hendpoint, by
          simp [ParticipantRecord.key, hkind]⟩, Roster.put_eq_self hmember]
      · rw [hkind, roster_putProducer ht]
        congr 1
        unfold Roster.registered
        cases hfind : t.findProducer record.id with
        | none => simp [roster, hfind, ParticipantRecord.fresh, ParticipantRecord.key, hkind]
        | some existing =>
            simp [roster, hfind, ParticipantRecord.fresh, ParticipantRecord.key, hkind,
              Member.Repeats, hother existing hfind]
  · next hkind =>
      obtain ⟨hcheck, pattern, t₁, hintern, hcases⟩ := registerConsumer_cases h
      obtain ⟨-, -, -, -, hvalid, -⟩ := checkConsumerRegistration_ok hcheck
      obtain ⟨ht₁, ⟨interned, hpattern⟩, hkept⟩ := ht.internPattern hvalid hintern
      rcases hcases with ⟨existing, hfind, hincarnation, hsame, hendpoint, rfl⟩ | ⟨hother, rfl⟩
      · have hkey := (internPattern_of_repeated ht (mem_of_findConsumer hfind) hintern).mp hsame
        have hmember : t.roster .consumer record.id = some ⟨existing.incarnation, existing.state,
            existing.endpoint, (t.pattern existing.pattern).canonicalKey⟩ := by
          simp [roster, hfind]
        rw [hkind, hmember, Roster.registered, if_pos ⟨hincarnation, hendpoint, by
          simpa [ParticipantRecord.key, hkind] using hkey⟩, Roster.put_eq_self hmember]
        -- the pattern was there, so nothing was interned
        rcases internPattern_cases hintern with ⟨-, rfl⟩ | ⟨-, -, hlength, rfl⟩
        · rfl
        · obtain ⟨-, -, -, hlt⟩ := ht.consumers existing (mem_of_findConsumer hfind)
          rw [selections, List.length_map] at hlt
          omega
      · have hsame : t₁.producers = t.producers ∧ t₁.consumers = t.consumers := by
          rcases internPattern_cases hintern with ⟨-, rfl⟩ | ⟨-, -, -, rfl⟩ <;> exact ⟨rfl, rfl⟩
        let joining : ConsumerRecord :=
          ⟨record.id, record.incarnation, .active, record.endpoint, pattern⟩
        have hroster : (t₁.enlist (t.findConsumer record.id) joining).roster = _ :=
          roster_storeConsumer ht (by rw [producers_enlist, hsame.1])
            (by rw [consumers_enlist, hsame.2]) (by rw [selections_enlist]; exact hkept)
        have hkey : ((t₁.enlist (t.findConsumer record.id) joining).pattern pattern).canonicalKey =
            record.selection.canonicalKey := by
          rw [pattern_eq, selections_enlist, ← pattern_eq]
          exact canonicalKey_of_selections ht₁ hpattern
        rw [hroster, hkind, hkey]
        congr 1
        unfold Roster.registered
        cases hfind : t.findConsumer record.id with
        | none =>
            simp [roster, hfind, ParticipantRecord.fresh, ParticipantRecord.key, hkind, joining]
        | some existing =>
            have hrepeats : ¬(existing.incarnation = record.incarnation ∧
                existing.endpoint = record.endpoint ∧
                (t.pattern existing.pattern).canonicalKey = record.selection.canonicalKey) := by
              rintro ⟨hincarnation, hendpoint, hkey⟩
              exact hother existing hfind ⟨hincarnation, (internPattern_of_repeated ht
                (mem_of_findConsumer hfind) hintern).mpr hkey, hendpoint⟩
            simp [roster, hfind, ParticipantRecord.fresh, ParticipantRecord.key, hkind,
              Member.Repeats, hrepeats, joining]

/-- A state change finds the participant under the record's incarnation, and replaces its
state. -/
theorem setStateFrom_roster {t t' : Topology} {record : ParticipantRecord} (ht : t.Consistent)
    (h : setStateFrom t record = .ok t') :
    ∃ m, t.roster record.kind record.id = some m ∧ m.incarnation = record.incarnation ∧
      t'.roster = t.roster.put record.kind record.id { m with state := record.state } := by
  unfold setStateFrom at h
  split at h
  · next hkind =>
      obtain ⟨p, hfind, hincarnation, hcases⟩ := setProducerState_cases h
      have hmember : t.roster .producer record.id =
          some ⟨p.incarnation, p.state, p.endpoint, []⟩ := by
        simp [roster, hfind]
      refine ⟨_, hkind ▸ hmember, hincarnation, ?_⟩
      rw [hkind]
      rcases hcases with ⟨hstate, rfl⟩ | ⟨-, rfl⟩
      · rw [← hstate, Roster.put_eq_self hmember]
      · rw [roster_putProducer ht, id_of_findProducer hfind]
  · next hkind =>
      obtain ⟨c, hfind, hincarnation, hcases⟩ := setConsumerState_cases h
      have hmember : t.roster .consumer record.id = some ⟨c.incarnation, c.state, c.endpoint,
          (t.pattern c.pattern).canonicalKey⟩ := by
        simp [roster, hfind]
      refine ⟨_, hkind ▸ hmember, hincarnation, ?_⟩
      rw [hkind]
      rcases hcases with ⟨hstate, rfl⟩ | ⟨-, rfl⟩
      · rw [← hstate, Roster.put_eq_self hmember]
      · rw [roster_storeConsumer ht (producers_shifted t c record.state)
          (consumers_shifted t c record.state)
          (by rw [selections_shifted]; exact fun _ _ hentry => hentry)]
        simp only [pattern_eq, selections_shifted, id_of_findConsumer hfind]

end Coordinator

end ShuffleFabric
