import Tenancy.Proofs.History.Change

/-! Whatever has been asked of a registry, its store answers every question from one list of
records, in which no id and no name on a cluster stands twice. -/

namespace Tenancy

open Readable

/-- The store answers from these records. Each search finds the one record it is for, or nothing. -/
structure Consistent [Store σ] (store : σ) (records : List Registration) : Prop where
  listAll : Store.listAll store = .ok records
  increasing : records.Pairwise fun left right => left.id < right.id
  idsOnce : (records.map (·.id)).Nodup
  pairsOnce : (records.map Registration.pair).Nodup
  findById : ∀ id, ∃ found, Store.findById store id = .ok found ∧
    ∀ record, found = some record ↔ record ∈ records ∧ record.id = id
  findByPair : ∀ name cluster, ∃ found, Store.findByPair store name cluster = .ok found ∧
    ∀ record, found = some record ↔
      record ∈ records ∧ record.name = name ∧ record.cluster = cluster

theorem consistent_of_sound [Store σ] [Readable σ] [LawfulStore σ] {store : σ}
    (sound : Sound store) : Consistent store (contents store).records := by
  have ordered := LawfulStore.ordered sound
  constructor
  · exact LawfulStore.listAll sound
  · exact ordered.increasing
  · exact ordered.idsOnce
  · exact ordered.pairsOnce
  · intro id
    exact ⟨_, LawfulStore.findById sound id, ordered.find?_id id⟩
  · intro name cluster
    refine ⟨_, LawfulStore.findByPair sound name cluster, ?_⟩
    intro record
    rw [ordered.find?_pair, Registration.pair, Prod.mk.injEq]

/-- The store of either back end is consistent after every history. -/
theorem consistent_after_every_history (backEnd : BackEnd) (clusters : Clusters)
    (history : List Operation) :
    ∃ records, Consistent ((backEnd.start clusters).after history).store records :=
  ⟨_, consistent_of_sound (backEnd.sound_after clusters history)⟩

end Tenancy
