import HostAccess.Proofs.JsonValue

/-!
# Members of an object

Members that are put in their places one after another stay in the order of their keys, so they are
read back as they were. Under each key stands what was put there last.
-/
namespace HostAccess.Json

theorem lookup_member (key : String) (value : Value) (members : Members) (k : String) :
    ((key, value) :: members : Members).lookup k =
      if k = key then some value else members.lookup k := by
  rw [List.lookup_cons]
  by_cases hk : k = key
  · simp [hk]
  · simp [hk, beq_eq_false_iff_ne.mpr hk]

theorem lookup_insert (key : String) (value : Value) (members : Members) (k : String) :
    (insert key value members).lookup k = if k = key then some value else members.lookup k := by
  induction members with
  | nil => exact lookup_member key value [] k
  | cons first rest ih =>
    obtain ⟨l, v⟩ := first
    rw [insert]
    split
    · exact lookup_member ..
    · split
      · rename_i hl
        subst hl
        simp only [lookup_member]
        split <;> rfl
      · rename_i hl
        simp only [lookup_member, ih]
        by_cases hk : k = key
        · have hkl : k ≠ l := hk ▸ hl
          rw [if_neg hkl, if_pos hk, if_pos hk]
        · rw [if_neg hk, if_neg hk]

/-! ## Order -/

/-- Whether keys come in order, and none of them twice. -/
def Ordered (members : Members) : Prop := members.Pairwise (·.1 < ·.1)

theorem Ordered.mem_iff_lookup {members : Members} (inOrder : Ordered members)
    {m : String × Value} : m ∈ members ↔ members.lookup m.1 = some m.2 := by
  induction members with
  | nil => simp
  | cons first rest ih =>
    obtain ⟨above, later⟩ := List.pairwise_cons.mp inOrder
    obtain ⟨k, v⟩ := first
    rw [List.mem_cons, lookup_member, ih later]
    by_cases same : m.1 = k
    · have absent : rest.lookup m.1 = none := by
        rw [List.lookup_eq_none_iff]
        exact fun other hm => bne_iff_ne.mpr (same ▸ (String.ne_of_lt (above other hm)))
      rw [absent, if_pos same, Option.some.injEq, Prod.ext_iff]
      exact ⟨fun h => h.elim (·.2.symm) nofun, fun h => .inl ⟨same, h.symm⟩⟩
    · rw [if_neg same, Prod.ext_iff]
      exact ⟨fun h => h.resolve_left fun he => same he.1, .inr⟩

theorem mem_insert {key : String} {value : Value} {members : Members} {m : String × Value}
    (h : m ∈ insert key value members) : m = (key, value) ∨ m ∈ members := by
  induction members with
  | nil => exact .inl (List.mem_singleton.mp h)
  | cons first rest ih =>
    obtain ⟨l, v⟩ := first
    rw [insert] at h
    split at h
    · exact List.mem_cons.mp h
    · split at h
      · exact (List.mem_cons.mp h).imp_right (List.mem_cons_of_mem _)
      · obtain rfl | h := List.mem_cons.mp h
        · exact .inr List.mem_cons_self
        · exact (ih h).imp_right (List.mem_cons_of_mem _)

theorem Ordered.insert {members : Members} (h : Ordered members) (key : String) (value : Value) :
    Ordered (insert key value members) := by
  induction members with
  | nil => exact List.pairwise_singleton _ _
  | cons first rest ih =>
    obtain ⟨l, v⟩ := first
    obtain ⟨above, later⟩ := List.pairwise_cons.mp h
    rw [Json.insert]
    split
    · rename_i below
      refine List.pairwise_cons.mpr ⟨fun m hm => ?_, h⟩
      obtain rfl | hm := List.mem_cons.mp hm
      · exact below
      · exact String.lt_trans below (above m hm)
    · rename_i notBelow
      split
      · rename_i hl
        subst hl
        exact List.pairwise_cons.mpr ⟨above, later⟩
      · rename_i hl
        have past : l < key := Decidable.byContradiction fun notPast =>
          hl (String.le_antisymm (String.not_lt.mp notPast) (String.not_lt.mp notBelow))
        refine List.pairwise_cons.mpr ⟨fun m hm => ?_, ih later⟩
        obtain rfl | hm := mem_insert hm
        · exact past
        · exact above m hm

/-- A member that comes after all others is put at the end. -/
theorem insert_of_last {key : String} {value : Value} {members : Members}
    (h : ∀ m ∈ members, m.1 < key) : insert key value members = members ++ [(key, value)] := by
  induction members with
  | nil => rfl
  | cons first rest ih =>
    obtain ⟨l, v⟩ := first
    have below : l < key := h (l, v) List.mem_cons_self
    have hne : key ≠ l := fun he => String.lt_irrefl l (he ▸ below)
    rw [insert, if_neg (String.lt_asymm below), if_neg hne,
      ih fun m hm => h m (List.mem_cons_of_mem _ hm), List.cons_append]

/-- Members that follow the others in order are put after them, one by one. -/
theorem foldl_insert_of_ordered {rest before : Members} (h : Ordered (before ++ rest)) :
    rest.foldl (fun done m => insert m.1 m.2 done) before = before ++ rest := by
  induction rest generalizing before with
  | nil => simp
  | cons m rest ih =>
    have below : ∀ earlier ∈ before, earlier.1 < m.1 := fun earlier he =>
      (List.pairwise_append.mp h).2.2 earlier he m List.mem_cons_self
    have split : before ++ m :: rest = before ++ [m] ++ rest := by simp
    rw [List.foldl_cons, insert_of_last below, split]
    exact ih (split ▸ h)

/-- Members in order stay as they are. -/
theorem sorted_of_ordered {members : Members} (h : Ordered members) : sorted members = members :=
  foldl_insert_of_ordered h

end HostAccess.Json
