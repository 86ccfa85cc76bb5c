import ShuffleFabric.Onward

/-!
# ShuffleFabric.Republish

Publishing a manifest again.

A manifest is accepted with the topology generation of the moment put in place of its own.
The comparison with the accepted one covers that field too, so the identical manifest is
recognized as long as the topology has not moved.
-/

namespace ShuffleFabric

open Lib Action

namespace Coordinator

/-! ## What republication relies on -/

/-- The content of a manifest is the accepted one, and its producer could publish it now. -/
structure StillCurrent (c : Coordinator) (m : PartitionManifest) : Prop where
  generation : (c.manifests[m.partition]?).map (·.partitionGeneration) = some m.partitionGeneration
  producer : ∃ t p, c.topology = some t ∧ t.ownerOf m.partition = .ok m.producer ∧
    t.findProducer m.producer = some p ∧ p.state = .active ∧ p.incarnation = m.producerIncarnation

/-- Nothing that is accepted, counted or in flight differs. -/
structure Untouched (c c' : Coordinator) : Prop where
  manifests : c'.manifests = c.manifests
  facts : c'.facts = c.facts
  ledger : c'.ledger = c.ledger
  grants : c'.grants = c.grants
  scheduler : c'.scheduler = c.scheduler

/-- Putting a table's own entry back changes nothing. -/
theorem insert_self {α : Type} {table : Std.ExtTreeMap UInt64 α} {k : UInt64} {a : α}
    (h : table[k]? = some a) : table.insert k a = table := by
  ext other b
  rw [Std.ExtTreeMap.getElem?_insert]
  split
  · next hcmp =>
      obtain rfl : k = other := Std.LawfulEqOrd.eq_of_compare hcmp
      rw [h]
  · rfl

/-- The answer of a publication that succeeded, and all it went through. -/
theorem publishManifest_ok {c : Coordinator} (hc : c.Regular) {m : PartitionManifest}
    {acceptance : ManifestAcceptance}
    (h : (c.move (.call (.publishManifest m))).1 = .ok (.accepted acceptance)) :
    ∃ accepted ledger, c.checkPublish m = .ok accepted ∧
      c.storeAnswer (.manifest ⟨accepted⟩) = .ok () ∧
      c.ledger.retireGeneration accepted.partition accepted.partitionGeneration = .ok ledger ∧
      acceptance = ⟨computeManifestDigest accepted, accepted.partitionGeneration⟩ ∧
      (c.move (.call (.publishManifest m))).2 =
        (c.persisted (DurableRecord.manifest ⟨accepted⟩).encode).manifested accepted ledger := by
  have htransition := perform_transition hc.inside hc.consistent (.publishManifest m)
  rw [show c.move (.call (.publishManifest m)) = c.perform (.publishManifest m) from rfl] at h ⊢
  generalize (c.perform (.publishManifest m)).1 = answer at h htransition
  generalize (c.perform (.publishManifest m)).2 = c' at htransition ⊢
  cases htransition with
  | refused => cases h
  | unstored => cases h
  | registered _ record t t' hregistration => cases hregistration
  | published _ accepted ledger hcheck hanswer hretired =>
      cases h
      exact ⟨accepted, ledger, hcheck, hanswer, hretired, rfl, rfl⟩
  | unretired => cases h

/-- A record that was stored was read back. -/
theorem decoded_of_storeAnswer {c : Coordinator} {r : DurableRecord} (h : c.storeAnswer r = .ok ()) :
    ∃ d, decodeRecord c.limits r.encode = .ok d := by
  simp only [storeAnswer, bind_eq_ok] at h
  obtain ⟨u, -, d, hdecode, -⟩ := h
  exact ⟨d, hdecode⟩

/-- What an accepted manifest leaves for every state after it. -/
structure Accepted (m accepted : PartitionManifest) (limits : Limits) (c : Coordinator) : Prop where
  valid : validateManifest m limits = .ok ()
  shuffle : m.shuffle = c.request.shuffle
  shuffleGeneration : m.shuffleGeneration = c.request.generation
  partition : m.partition < c.request.partitionCount.toUInt64
  bounded : m.partition < c.ledger.partitionCount.toUInt64
  bounds : c.limits = limits
  decoded : ∃ d, decodeRecord limits (DurableRecord.manifest ⟨accepted⟩).encode = .ok d
  latest : ∃ known, c.ledger.latestGeneration[m.partition]? = some known ∧
    m.partitionGeneration ≤ known
  manifest : ∃ m', c.manifests[m.partition]? = some m' ∧
    (m' = accepted ∨ accepted.partitionGeneration < m'.partitionGeneration)

theorem accepted_of_publish {c : Coordinator} (hc : c.Regular) {m : PartitionManifest}
    {acceptance : ManifestAcceptance}
    (h : (c.move (.call (.publishManifest m))).1 = .ok (.accepted acceptance)) :
    ∃ t, c.topology = some t ∧
      acceptance = ⟨computeManifestDigest { m with topologyGeneration := t.generation },
        m.partitionGeneration⟩ ∧
      (c.move (.call (.publishManifest m))).2.state ≠ .closed ∧
      Accepted m { m with topologyGeneration := t.generation } c.limits
        (c.move (.call (.publishManifest m))).2 := by
  obtain ⟨accepted, ledger, hcheck, hstore, hretired, hacceptance, hafter⟩ := publishManifest_ok hc h
  obtain ⟨t, hopen, rfl, hvalid, hshuffle, hgeneration, hpartition, howner, hproducer, hexisting⟩ :=
    checkPublish_ok hcheck
  obtain ⟨hbounded, hfollows⟩ :=
    CompletionLedger.follows_retireGeneration hretired
  obtain ⟨d, hdecoded⟩ := decoded_of_storeAnswer hstore
  obtain ⟨known, hknown, hle, -⟩ :=
    CompletionLedger.getElem?_raised c.ledger.latestGeneration m.partition m.partitionGeneration
  refine ⟨t, (ensureOpen_ok hopen).2, hacceptance, ?_, ?_⟩
  · rw [hafter]
    show c.state ≠ .closed
    rw [(ensureOpen_ok hopen).1]
    simp
  · rw [hafter]
    refine ⟨hvalid, hshuffle, hgeneration, hpartition, ?_, rfl, ⟨d, hdecoded⟩, ⟨known, ?_, hle⟩,
      ⟨_, ?_, .inl rfl⟩⟩
    · show m.partition < ledger.partitionCount.toUInt64
      rw [hfollows.partitionCount]
      exact hbounded
    · show ledger.latestGeneration[m.partition]? = some known
      rw [CompletionLedger.latestGeneration_retireGeneration hretired]
      exact hknown
    · exact Std.ExtTreeMap.getElem?_insert_self

theorem Accepted.onward {m accepted : PartitionManifest} {limits : Limits} {c d : Coordinator}
    (h : Accepted m accepted limits c) (honward : Onward c d) : Accepted m accepted limits d where
  valid := h.valid
  shuffle := honward.request ▸ h.shuffle
  shuffleGeneration := honward.request ▸ h.shuffleGeneration
  partition := honward.request ▸ h.partition
  bounded := honward.ledger.follows.partitionCount ▸ h.bounded
  bounds := honward.limits.trans h.bounds
  decoded := h.decoded
  latest := by
    obtain ⟨known, hknown, hle⟩ := h.latest
    obtain ⟨later, hlater, hle'⟩ := honward.ledger.latest _ _ hknown
    exact ⟨later, hlater, UInt64.le_trans hle hle'⟩
  manifest := by
    obtain ⟨m', hm', hnewer⟩ := h.manifest
    obtain ⟨m'', hm'', hnewer'⟩ := honward.manifests _ _ hm'
    refine ⟨m'', hm'', ?_⟩
    rcases hnewer with rfl | hlt
    · exact hnewer'
    · rcases hnewer' with rfl | hlt'
      · exact .inr hlt
      · exact .inr (UInt64.lt_trans hlt hlt')

/-! ## The second publication -/

/-- With the topology where it was, the identical manifest passes every check again. -/
theorem perform_republish {c : Coordinator} (hin : c.inside = false) {m : PartitionManifest}
    {limits : Limits} {t : Topology} (ht : c.topology = some t)
    (h : Accepted m { m with topologyGeneration := t.generation } limits c)
    (hcurrent : c.StillCurrent m) (hopen : c.state = .open)
    (hsink : c.sinkAnswer (DurableRecord.manifest
      ⟨{ m with topologyGeneration := t.generation }⟩).encode = .ok ()) :
    c.manifests[m.partition]? = some { m with topologyGeneration := t.generation } ∧
    c.perform (.publishManifest m) =
      (.ok (.accepted ⟨computeManifestDigest { m with topologyGeneration := t.generation },
          m.partitionGeneration⟩),
        (c.persisted (DurableRecord.manifest
          ⟨{ m with topologyGeneration := t.generation }⟩).encode).manifested
          { m with topologyGeneration := t.generation } c.ledger) := by
  obtain ⟨t', p, ht', howner, hfind, hactive, hincarnation⟩ := hcurrent.producer
  obtain rfl := Option.some.inj (ht'.symm.trans ht)
  have hensure : c.ensureOpen = .ok t' := by
    simp only [ensureOpen, hopen, ht]
    rfl
  obtain ⟨existing, hfound, hnewer⟩ := h.manifest
  have hexisting : existing = { m with topologyGeneration := t'.generation } := by
    have hgeneration := hcurrent.generation
    rw [hfound, Option.map_some, Option.some.injEq] at hgeneration
    rcases hnewer with rfl | hlt
    · rfl
    · rw [hgeneration] at hlt
      exact absurd hlt (UInt64.lt_irrefl _)
  subst hexisting
  have hcheck := checkPublish_of hensure (h.bounds.symm ▸ h.valid) h.shuffle h.shuffleGeneration
    h.partition howner hfind hincarnation hactive (by
      rw [hfound]
      simp [checkExisting, refuseIf, bind, Except.bind])
  have hencode : ManifestRecord.encode
      { manifest := { m with topologyGeneration := t'.generation } } c.limits =
        .ok (DurableRecord.manifest ⟨{ m with topologyGeneration := t'.generation }⟩).encode := by
    have hvalid : validateManifest { m with topologyGeneration := t'.generation } c.limits =
      .ok () := h.bounds.symm ▸ h.valid
    simp only [ManifestRecord.encode, encodeManifest, hvalid, bind, Except.bind]
    rfl
  have hstore : c.storeAnswer (.manifest ⟨{ m with topologyGeneration := t'.generation }⟩) =
      .ok () := by
    obtain ⟨d, hd⟩ := h.decoded
    simp only [storeAnswer, hsink, h.bounds, hd, bind, Except.bind]
    rfl
  obtain ⟨known, hknown, hle⟩ := h.latest
  have hretire : c.ledger.retireGeneration m.partition m.partitionGeneration = .ok c.ledger := by
    simp only [CompletionLedger.retireGeneration, refuseIf, if_neg (UInt64.not_le.mpr h.bounded), hknown,
      if_pos (UInt64.not_lt.mpr hle), bind, Except.bind, pure, Except.pure]
  exact ⟨hfound, perform_publishManifest hin hcheck hencode hstore hretire⟩

/-- While its content is current and its producer may publish, the identical manifest is
accepted again, to the same effect as none, exactly if the shuffle is open, the sink takes
the record, and the topology has not moved since the first acceptance. -/
theorem republication_idempotent {limits : Limits} {sink : Option Sink}
    {earlier later : List (Event Coordinator Move (Result Reply))} {c₀ c : Coordinator}
    (run : Run move (make limits sink) earlier c₀) {m : PartitionManifest}
    {acceptance : ManifestAcceptance}
    (hpublish : (c₀.move (.call (.publishManifest m))).1 = .ok (.accepted acceptance))
    (run' : Run move (c₀.move (.call (.publishManifest m))).2 later c)
    (hcurrent : c.StillCurrent m) :
    ∃ t₀ t, c₀.topology = some t₀ ∧ c.topology = some t ∧
      ((c.move (.call (.publishManifest m))).1 = .ok (.accepted acceptance) ∧
          Untouched c (c.move (.call (.publishManifest m))).2 ↔
        c.state = .open ∧ t.generation = t₀.generation ∧
          c.sinkAnswer (DurableRecord.manifest
            ⟨{ m with topologyGeneration := t₀.generation }⟩).encode = .ok ()) := by
  have hc₀ := regular_of_run run
  obtain ⟨t₀, ht₀, hacceptance, hbound, haccepted⟩ := accepted_of_publish hc₀ hpublish
  obtain ⟨honward, hc⟩ := onward_of_run (hc₀.move _) hbound run'
  have haccepted := haccepted.onward honward
  have hdescribed := described_of_run ((run.snoc (.call (.publishManifest m))).trans run')
  obtain ⟨t, p, ht, -⟩ := hcurrent.producer
  refine ⟨t₀, t, ht₀, ht, ?_⟩
  constructor
  · rintro ⟨hagain, -⟩
    obtain ⟨accepted, ledger, hcheck, hstore, -⟩ := publishManifest_ok hc hagain
    obtain ⟨t', hopen, rfl, -, -, -, -, -, -, hexisting⟩ := checkPublish_ok hcheck
    obtain ⟨hstate, ht'⟩ := ensureOpen_ok hopen
    obtain rfl := Option.some.inj (ht'.symm.trans ht)
    obtain ⟨existing, hfound, hnewer⟩ := haccepted.manifest
    have hgeneration := hcurrent.generation
    rw [hfound, Option.map_some, Option.some.injEq] at hgeneration
    have hsame : existing = { m with topologyGeneration := t₀.generation } := by
      rcases hnewer with rfl | hlt
      · rfl
      · rw [hgeneration] at hlt
        exact absurd hlt (UInt64.lt_irrefl _)
    rw [hfound, hsame] at hexisting
    simp only [checkExisting, bind_eq_ok, refuseIf_eq_ok, exists_const, true_and, not_not]
      at hexisting
    have hmoved : t₀.generation = t'.generation :=
      congrArg PartitionManifest.topologyGeneration hexisting.2
    refine ⟨hstate, hmoved.symm, ?_⟩
    rw [hmoved]
    exact (storeAnswer_ok (r := .manifest _) trivial hstore).1
  · rintro ⟨hopen, hmoved, hsink⟩
    rw [← hmoved] at haccepted hsink hacceptance
    obtain ⟨hfound, hrun⟩ := perform_republish hc.inside ht haccepted hcurrent hopen hsink
    rw [show c.move (.call (.publishManifest m)) = c.perform (.publishManifest m) from rfl, hrun]
    have hfacts : c.facts[m.partition]? =
        some (factsOf { m with topologyGeneration := t.generation }) := by
      rw [hdescribed, hfound]
      rfl
    exact ⟨by rw [hacceptance], insert_self hfound, insert_self hfacts, rfl, rfl, rfl⟩

/-- What `StillCurrent` asks for, on a coordinator that can be evaluated. -/
theorem stillCurrent_of_eval {c : Coordinator} {m : PartitionManifest}
    (h : (c.manifests[m.partition]?).map (·.partitionGeneration) = some m.partitionGeneration ∧
      c.topology.map (·.ownerOf m.partition) = some (.ok m.producer) ∧
      (c.topology.bind (·.findProducer m.producer)).map
        (fun p => (p.state, p.incarnation)) = some (.active, m.producerIncarnation)) :
    c.StillCurrent m := by
  obtain ⟨hgeneration, howner, hproducer⟩ := h
  obtain ⟨t, ht, howner⟩ := Option.map_eq_some_iff.mp howner
  obtain ⟨p, hp, hmember⟩ := Option.map_eq_some_iff.mp hproducer
  rw [ht, Option.bind_some] at hp
  exact ⟨hgeneration, t, p, ht, howner, hp, congrArg Prod.fst hmember, congrArg Prod.snd hmember⟩

/-- Everything up to the first manifest. -/
def smallMembers : List Move :=
  [.call (.openShuffle (smallOpen 1)), .call (.registerProducer 1 1 []),
    .call (.registerConsumer 2 1 [] {})]

theorem smallMembers_publish :
    ((final move (make {} (some acceptAll)) smallMembers).move
      (.call (.publishManifest (smallManifest 0 1 0)))).1 =
        .ok (.accepted ⟨computeManifestDigest (smallManifest 0 1 2), 1⟩) := by
  have hrun := Run.of_inputs move (make {} (some acceptAll)) smallMembers
  have heval : Reply.isAccepted ((final move (make {} (some acceptAll)) smallMembers).move
        (.call (.publishManifest (smallManifest 0 1 0)))).1 = true ∧
      (final move (make {} (some acceptAll)) smallMembers).topology.map (·.generation) = some 2 := by
    decide +kernel
  obtain ⟨acceptance, hpublish⟩ := Reply.isAccepted_iff.mp heval.1
  obtain ⟨t, ht, hacceptance, -⟩ := accepted_of_publish (regular_of_run hrun) hpublish
  have hgeneration : t.generation = 2 := by
    have hmap := heval.2
    rw [ht] at hmap
    exact Option.some.inj hmap
  rw [hpublish, hacceptance, hgeneration]
  rfl

/-- The manifest of partition 0 is published, granted, and published again. -/
theorem republication_idempotent_small :
    let c₀ := final move (make {} (some acceptAll)) smallMembers
    let c := final move (c₀.move (.call (.publishManifest (smallManifest 0 1 0)))).2 [.call .nextWave]
    ∃ t₀ t, c₀.topology = some t₀ ∧ c.topology = some t ∧
      ((c.move (.call (.publishManifest (smallManifest 0 1 0)))).1 = .ok (.accepted
            ⟨computeManifestDigest (smallManifest 0 1 2), 1⟩) ∧
          Untouched c (c.move (.call (.publishManifest (smallManifest 0 1 0)))).2 ↔
        c.state = .open ∧ t.generation = t₀.generation ∧
          c.sinkAnswer (DurableRecord.manifest
            ⟨{ smallManifest 0 1 0 with topologyGeneration := t₀.generation }⟩).encode = .ok ()) := by
  intro c₀ c
  have hcurrent : c.StillCurrent (smallManifest 0 1 0) := stillCurrent_of_eval (by decide +kernel)
  exact republication_idempotent (Run.of_inputs move _ smallMembers) smallMembers_publish
    (Run.of_inputs move _ [.call .nextWave]) hcurrent

/-- Between the two publications consumer 3 registers, and the identical manifest is refused
as a different one. -/
theorem republication_divergent :
    ¬∀ (limits : Limits) (sink : Sink), (∀ n record, sink.answer n record = .ok ()) → ∀
      (earlier later : List (Event Coordinator Move (Result Reply))) (c₀ c : Coordinator),
      Run move (make limits (some sink)) earlier c₀ → ∀ m acceptance,
      (c₀.move (.call (.publishManifest m))).1 = .ok (.accepted acceptance) →
      Run move (c₀.move (.call (.publishManifest m))).2 later c → c.StillCurrent m →
      c.state = .open →
      (c.move (.call (.publishManifest m))).1 = .ok (.accepted acceptance) := by
  intro h
  have hrun := Run.of_inputs move (make {} (some acceptAll)) smallMembers
  have hrun' := Run.of_inputs move ((final move (make {} (some acceptAll)) smallMembers).move
    (.call (.publishManifest (smallManifest 0 1 0)))).2 [.call (.registerConsumer 3 1 [] {})]
  obtain ⟨c, hc, hcurrent, hopen, hrefused⟩ : ∃ c, final move ((final move
        (make {} (some acceptAll)) smallMembers).move
          (.call (.publishManifest (smallManifest 0 1 0)))).2
        [.call (.registerConsumer 3 1 [] {})] = c ∧
      ((c.manifests[(0 : UInt64)]?).map (·.partitionGeneration) = some 1 ∧
        c.topology.map (·.ownerOf 0) = some (.ok 1) ∧
        (c.topology.bind (·.findProducer 1)).map (fun p => (p.state, p.incarnation)) =
          some (.active, 1)) ∧ c.state = .open ∧
      Reply.isAccepted (c.move (.call (.publishManifest (smallManifest 0 1 0)))).1 = false :=
    ⟨_, rfl, by decide +kernel⟩
  rw [hc] at hrun'
  have hagain := h {} acceptAll (fun _ _ => rfl) _ _ _ _ hrun _ _ smallMembers_publish hrun'
    (stillCurrent_of_eval hcurrent) hopen
  rw [hagain] at hrefused
  cases hrefused

end Coordinator

end ShuffleFabric
