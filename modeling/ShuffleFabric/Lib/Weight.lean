import ShuffleFabric.Lib.Distinct
import ShuffleFabric.Lib.Table

/-!
# ShuffleFabric.Lib.Weight

The weight of a finite map: the sum of the weights of its values.

Nothing here mentions the repository.
-/

namespace Lib

section Weight

variable {κ β : Type} [Ord κ] [Std.TransOrd κ] [Std.LawfulEqOrd κ]

/-- The weights of the values of a map, added up. -/
def weigh (m : Std.ExtTreeMap κ β) (weight : β → Nat) : Nat :=
  (m.toList.map fun entry => weight entry.2).sum

/-- No entry of a table is listed twice. -/
theorem nodup_toList (m : Std.ExtTreeMap κ β) : m.toList.Nodup :=
  Std.ExtTreeMap.distinct_keys_toList.imp fun hne heq =>
    hne (by rw [heq]; exact Std.ReflOrd.compare_self)

/-- A new entry is one more in the list. -/
theorem toList_insert_perm {m : Std.ExtTreeMap κ β} {k : κ} (h : m[k]? = none) (v : β) :
    (m.insert k v).toList.Perm ((k, v) :: m.toList) := by
  have hnew : ((k, v) :: m.toList).Nodup := by
    refine List.nodup_cons.mpr ⟨fun hmem => ?_, nodup_toList m⟩
    rw [Std.ExtTreeMap.mem_toList_iff_getElem?_eq_some, h] at hmem
    cases hmem
  refine (List.perm_ext_iff_of_nodup (nodup_toList _) hnew).mpr ?_
  rintro ⟨k', v'⟩
  rw [List.mem_cons, Std.ExtTreeMap.mem_toList_iff_getElem?_eq_some,
    Std.ExtTreeMap.mem_toList_iff_getElem?_eq_some, Std.ExtTreeMap.getElem?_insert]
  split
  · next hsame =>
      obtain rfl := Std.LawfulEqOrd.eq_of_compare hsame
      simp [h, eq_comm]
  · next hother =>
      have hne : k' ≠ k := fun heq => hother (by rw [heq]; exact Std.ReflOrd.compare_self)
      simp [hne]

@[simp] theorem weigh_empty (weight : β → Nat) : weigh (∅ : Std.ExtTreeMap κ β) weight = 0 := by
  have hnone : (∅ : Std.ExtTreeMap κ β).toList = [] := by
    rw [List.eq_nil_iff_forall_not_mem]
    rintro ⟨k, v⟩ hmem
    simp [Std.ExtTreeMap.mem_toList_iff_getElem?_eq_some] at hmem
  rw [weigh, hnone]
  rfl

/-- A new entry adds its weight. -/
theorem weigh_insert {m : Std.ExtTreeMap κ β} {k : κ} (h : m[k]? = none) (v : β)
    (weight : β → Nat) : weigh (m.insert k v) weight = weigh m weight + weight v := by
  unfold weigh
  rw [((toList_insert_perm h v).map _).sum_eq, List.map_cons, List.sum_cons, Nat.add_comm]

/-- An entry that is taken out and put back. -/
theorem insert_erase_self {m : Std.ExtTreeMap κ β} {k : κ} {v : β} (h : m[k]? = some v) :
    (m.erase k).insert k v = m := by
  apply Std.ExtTreeMap.ext_getElem?
  intro k'
  rw [Std.ExtTreeMap.getElem?_insert, Std.ExtTreeMap.getElem?_erase]
  split
  · next hsame => rw [← Std.LawfulEqOrd.eq_of_compare hsame, h]
  · rfl

/-- An entry that goes away takes its weight with it. -/
theorem weigh_erase {m : Std.ExtTreeMap κ β} {k : κ} {v : β} (h : m[k]? = some v)
    (weight : β → Nat) : weigh (m.erase k) weight + weight v = weigh m weight := by
  have hnone : (m.erase k)[k]? = none := by simp
  rw [← weigh_insert hnone v weight, insert_erase_self h]

/-- An entry is replaced by taking the old one out first. -/
theorem insert_eq_insert_erase {m : Std.ExtTreeMap κ β} {k : κ} {v : β} (h : m[k]? = some v)
    (v' : β) : m.insert k v' = (m.erase k).insert k v' := by
  rw [← insert_erase_self h, insert_insert, insert_erase_self h]

/-- An entry that is replaced. -/
theorem weigh_replace {m : Std.ExtTreeMap κ β} {k : κ} {v : β} (h : m[k]? = some v) (v' : β)
    (weight : β → Nat) :
    weigh (m.insert k v') weight + weight v = weigh m weight + weight v' := by
  have hnone : (m.erase k)[k]? = none := by simp
  rw [insert_eq_insert_erase h, weigh_insert hnone, ← weigh_erase h weight]
  omega

/-- An entry that still counts as before leaves the tally. -/
theorem tally_replace {m : Std.ExtTreeMap κ β} {k : κ} {v v' : β} (h : m[k]? = some v)
    (p : β → Bool) (hsame : p v' = p v) : tally (m.insert k v') p = tally m p := by
  have hnone : (m.erase k)[k]? = none := by simp
  rw [insert_eq_insert_erase h, tally_insert hnone, hsame, tally_erase h]

/-- The entries that meet a condition are at most as many as a list that has all their keys. -/
theorem tally_le_length {m : Std.ExtTreeMap κ β} {p : β → Bool} {keys : List κ}
    (h : ∀ k v, m[k]? = some v → p v = true → k ∈ keys) : tally m p ≤ keys.length := by
  refine size_le_length fun k hk => ?_
  obtain ⟨v, hv, hp⟩ := mem_filter_iff.mp hk
  exact h k v hv hp

end Weight

end Lib
