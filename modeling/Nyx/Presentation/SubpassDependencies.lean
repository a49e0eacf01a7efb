import Nyx.Presentation.SubpassReferences

/-! # The dependencies between subpasses

`RenderPass::addSubpass` is given the indices of the subpasses that a new subpass depends on. It
makes one entry for all of them, and takes an index over only when there are more entries than it
says.

* **`SubpassDependency.Relates`** — an entry is between two subpasses.
* **`RenderPassCreateInfo.DependenciesComplete`** — there is one entry for each dependency, and no
  other.
* **`RenderPassLists.dependenciesComplete_iff`** — it is so exactly when each subpass depends on one
  subpass at most, the first one or one of a smaller index than there are entries. -/

namespace Nyx

open Foundations

/-- An entry between two subpasses, in either direction. -/
def SubpassDependency.Relates (entry : SubpassDependency) (k d : Nat) : Prop :=
  entry.srcSubpass = k ∧ entry.dstSubpass = d ∨ entry.srcSubpass = d ∧ entry.dstSubpass = k

instance (entry : SubpassDependency) (k d : Nat) : Decidable (entry.Relates k d) :=
  inferInstanceAs (Decidable (_ ∨ _))

/-- For every subpass and every index in its list there is exactly one entry between the two, and
every entry is of this kind. -/
structure RenderPassCreateInfo.DependenciesComplete (info : RenderPassCreateInfo)
    (subpasses : List Subpass) : Prop where
  once : ∀ k subpass, subpasses[k]? = some subpass → ∀ d ∈ subpass.subpassDeps,
    info.dependencies.countP (fun entry => decide (entry.Relates k d)) = 1
  only : ∀ entry ∈ info.dependencies, ∃ k subpass, subpasses[k]? = some subpass ∧
    ∃ d ∈ subpass.subpassDeps, entry.Relates k d

namespace RenderPassLists

/-! ## The entries -/

/-- The entry of a subpass, when there are `bound` entries before. -/
def entryOf (k bound : Nat) (subpass : Subpass) : SubpassDependency :=
  subpass.subpassDeps.foldl (setDependency k bound) {}

/-- The entries of subpasses from number `k` on, when there are `bound` entries before. -/
def entriesFrom (k bound : Nat) : List Subpass → List SubpassDependency
  | [] => []
  | subpass :: subpasses =>
      if subpass.subpassDeps = [] then entriesFrom (k + 1) bound subpasses
      else entryOf k bound subpass :: entriesFrom (k + 1) (bound + 1) subpasses

/-- **The entries** that adding subpasses makes go behind those that are there, one for each subpass
that lists dependencies. -/
theorem dependencies_addSubpasses (growth : Growth) {subpasses : List Subpass}
    (h : ∀ subpass ∈ subpasses, subpass.attachmentDeps ≠ []) (lists : RenderPassLists) :
    (lists.addSubpasses growth subpasses).dependencies = lists.dependencies ++
      entriesFrom lists.subpasses.length lists.dependencies.length subpasses := by
  induction subpasses generalizing lists with
  | nil => simp [addSubpasses, entriesFrom]
  | cons subpass subpasses ih =>
      obtain ⟨hsubpass, hrest⟩ := List.forall_mem_cons.mp h
      have hadded := added_addSubpass growth lists hsubpass
      have hsubpasses : (lists.addSubpass growth subpass).subpasses.length =
          lists.subpasses.length + 1 := by
        rw [hadded.subpasses, List.length_append, List.length_singleton]
      have hfold : lists.addSubpasses growth (subpass :: subpasses) =
          (lists.addSubpass growth subpass).addSubpasses growth subpasses := rfl
      rw [hfold, ih hrest, hsubpasses, hadded.dependencies, entriesFrom]
      by_cases hnone : subpass.subpassDeps = []
      · simp [hnone]
      · simp [hnone, entryOf]

/-- What the loop over a list of indices leaves of the ends of an entry. -/
theorem foldl_setDependency (k bound : Nat) (indices : List Nat) (entry : SubpassDependency) :
    (indices.foldl (setDependency k bound) entry).srcSubpass =
        (if indices = [] then entry.srcSubpass else k) ∧
      (indices.foldl (setDependency k bound) entry).dstSubpass =
        (indices.filter (· < bound)).getLast?.getD entry.dstSubpass := by
  induction indices generalizing entry with
  | nil => simp
  | cons index indices ih =>
      obtain ⟨hsrc, hdst⟩ := ih (setDependency k bound entry index)
      rw [List.foldl_cons, hsrc, hdst]
      refine ⟨?_, ?_⟩
      · simp [setDependency]
      · by_cases hindex : index < bound
        · rw [List.filter_cons_of_pos (by simpa using hindex), List.getLast?_cons]
          simp [setDependency, hindex]
        · rw [List.filter_cons_of_neg (by simpa using hindex)]
          simp [setDependency, hindex]

/-- The entry of a subpass that lists dependencies starts at that subpass. -/
theorem srcSubpass_entryOf (k bound : Nat) {subpass : Subpass} (h : subpass.subpassDeps ≠ []) :
    (entryOf k bound subpass).srcSubpass = k := by
  rw [entryOf, (foldl_setDependency k bound _ _).1, if_neg h]

/-- An entry ends at the last index in the list that is below the bound, or at the first subpass. -/
theorem dstSubpass_entryOf (k bound : Nat) (subpass : Subpass) :
    (entryOf k bound subpass).dstSubpass =
      (subpass.subpassDeps.filter (· < bound)).getLast?.getD 0 :=
  (foldl_setDependency k bound _ _).2

/-- The entry of a subpass ends at an index of its list that is below the bound, or at the first
subpass when there is none. -/
theorem dstSubpass_entryOf_cases (k bound : Nat) (subpass : Subpass) :
    (entryOf k bound subpass).dstSubpass ∈ subpass.subpassDeps ∧
        (entryOf k bound subpass).dstSubpass < bound ∨
      (entryOf k bound subpass).dstSubpass = 0 ∧ ∀ d ∈ subpass.subpassDeps, bound ≤ d := by
  rw [dstSubpass_entryOf]
  cases hlast : (subpass.subpassDeps.filter (· < bound)).getLast? with
  | none =>
      rw [List.getLast?_eq_none_iff, List.filter_eq_nil_iff] at hlast
      exact Or.inr ⟨rfl, fun d hd => by simpa using hlast d hd⟩
  | some d =>
      have hmem := List.mem_filter.mp (List.mem_of_getLast? hlast)
      exact Or.inl ⟨hmem.1, by simpa using hmem.2⟩

/-- **An entry that ends at every index of the list**: there is one index only, and the entry could
take it over. -/
theorem forall_dstSubpass_eq_iff (k bound : Nat) (subpass : Subpass) :
    (∀ d ∈ subpass.subpassDeps, (entryOf k bound subpass).dstSubpass = d) ↔
      ∀ d ∈ subpass.subpassDeps,
        (∀ other ∈ subpass.subpassDeps, other = d) ∧ (d = 0 ∨ d < bound) := by
  have hcases := dstSubpass_entryOf_cases k bound subpass
  constructor
  · intro h d hd
    refine ⟨fun other hother => (h other hother).symm.trans (h d hd), ?_⟩
    rw [← h d hd]
    exact hcases.elim (fun hlast => Or.inr hlast.2) fun hnone => Or.inl hnone.1
  · intro h d hd
    obtain ⟨hsame, hbound⟩ := h d hd
    rcases hcases with hlast | ⟨hzero, hnone⟩
    · exact hsame _ hlast.1
    · have hle := hnone d hd
      omega

/-- The entries of some subpasses and of those after them, which go on with the indices and the
bound. -/
theorem entriesFrom_append (k bound : Nat) (before after : List Subpass) :
    entriesFrom k bound (before ++ after) = entriesFrom k bound before ++
      entriesFrom (k + before.length)
        (bound + before.countP fun subpass => decide (subpass.subpassDeps ≠ [])) after := by
  induction before generalizing k bound with
  | nil => rfl
  | cons subpass before ih =>
      simp only [List.cons_append, entriesFrom, ih, List.length_cons, List.countP_cons]
      by_cases hnone : subpass.subpassDeps = []
      · simp [hnone, Nat.add_assoc, Nat.add_comm 1]
      · simp [hnone, Nat.add_assoc, Nat.add_comm 1]

/-- Each entry is that of a subpass, which lists dependencies, with the bound that it had then. -/
theorem exists_of_mem_entriesFrom {k bound : Nat} {subpasses : List Subpass}
    {entry : SubpassDependency} (h : entry ∈ entriesFrom k bound subpasses) :
    ∃ i subpass, subpasses[i]? = some subpass ∧ subpass.subpassDeps ≠ [] ∧
      entry = entryOf (k + i) (bound + (subpasses.take i).countP fun subpass =>
        decide (subpass.subpassDeps ≠ [])) subpass := by
  induction subpasses generalizing k bound with
  | nil => simp [entriesFrom] at h
  | cons subpass subpasses ih =>
      by_cases hnone : subpass.subpassDeps = []
      · rw [entriesFrom, if_pos hnone] at h
        obtain ⟨i, other, hget, hdeps, rfl⟩ := ih h
        refine ⟨i + 1, other, hget, hdeps, ?_⟩
        simp [hnone, Nat.add_assoc, Nat.add_comm 1]
      · rw [entriesFrom, if_neg hnone, List.mem_cons] at h
        rcases h with rfl | h
        · exact ⟨0, subpass, rfl, hnone, rfl⟩
        · obtain ⟨i, other, hget, hdeps, rfl⟩ := ih h
          refine ⟨i + 1, other, hget, hdeps, ?_⟩
          simp [hnone, Nat.add_assoc, Nat.add_comm 1]

/-- Every subpass lists only dependencies on earlier ones. -/
def DependsOnEarlier (subpasses : List Subpass) : Prop :=
  ∀ (k : Nat) (subpass : Subpass), subpasses[k]? = some subpass →
    ∀ d ∈ subpass.subpassDeps, d < k

/-- The number of entries that the first `k` subpasses make. -/
def entriesBefore (subpasses : List Subpass) (k : Nat) : Nat :=
  (subpasses.take k).countP fun subpass => decide (subpass.subpassDeps ≠ [])

/-- The entries of other subpasses are not between a subpass and an earlier one. -/
theorem not_relates_of_ne {subpasses : List Subpass} (hearlier : DependsOnEarlier subpasses)
    {i k d : Nat} {subpass : Subpass} (hget : subpasses[i]? = some subpass)
    (hdeps : subpass.subpassDeps ≠ []) (hne : i ≠ k) (hd : d < k) (bound : Nat) :
    ¬ (entryOf i bound subpass).Relates k d := by
  have hsrc := srcSubpass_entryOf i bound hdeps
  rintro (⟨hk, -⟩ | ⟨hi, hk⟩)
  · exact hne (hsrc.symm.trans hk)
  · -- the entry would end behind its start
    rcases dstSubpass_entryOf_cases i bound subpass with ⟨hmem, -⟩ | ⟨hzero, -⟩
    · have hlt := hearlier i subpass hget _ hmem
      omega
    · omega

/-- **The entries between a subpass and an earlier one**: there is one when that of the subpass ends
there, and none otherwise. -/
theorem countP_relates {subpasses : List Subpass} (hearlier : DependsOnEarlier subpasses)
    {k d : Nat} {subpass : Subpass} (hget : subpasses[k]? = some subpass)
    (hmem : d ∈ subpass.subpassDeps) :
    (entriesFrom 0 0 subpasses).countP (fun entry => decide (entry.Relates k d)) =
      if (entryOf k (entriesBefore subpasses k) subpass).dstSubpass = d then 1 else 0 := by
  have hlt : k < subpasses.length := (List.getElem?_eq_some_iff.mp hget).1
  have hdeps : subpass.subpassDeps ≠ [] := List.ne_nil_of_mem hmem
  have hd := hearlier k subpass hget d hmem
  have hsplit : subpasses = subpasses.take k ++ subpass :: subpasses.drop (k + 1) := by
    rw [← (List.getElem?_eq_some_iff.mp hget).2, List.getElem_cons_drop, List.take_append_drop]
  have hentries : entriesFrom 0 0 subpasses = entriesFrom 0 0 (subpasses.take k) ++
      entryOf k (entriesBefore subpasses k) subpass ::
        entriesFrom (k + 1) (entriesBefore subpasses k + 1) (subpasses.drop (k + 1)) := by
    have hlength : (subpasses.take k).length = k := by simp [hlt.le]
    conv_lhs => rw [hsplit]
    rw [entriesFrom_append, entriesFrom, if_neg hdeps, hlength, entriesBefore]
    simp only [Nat.zero_add]
  have hbefore : (entriesFrom 0 0 (subpasses.take k)).countP
      (fun entry => decide (entry.Relates k d)) = 0 := by
    rw [List.countP_eq_zero]
    intro entry hentry
    obtain ⟨i, other, hother, hnone, rfl⟩ := exists_of_mem_entriesFrom hentry
    have hi : i < k := by
      have hbound := (List.getElem?_eq_some_iff.mp hother).1
      rw [List.length_take] at hbound
      omega
    rw [List.getElem?_take_of_lt hi] at hother
    simpa using not_relates_of_ne hearlier hother hnone (Nat.ne_of_lt hi) hd _
  have hafter : (entriesFrom (k + 1) (entriesBefore subpasses k + 1)
      (subpasses.drop (k + 1))).countP (fun entry => decide (entry.Relates k d)) = 0 := by
    rw [List.countP_eq_zero]
    intro entry hentry
    obtain ⟨i, other, hother, hnone, rfl⟩ := exists_of_mem_entriesFrom hentry
    rw [List.getElem?_drop] at hother
    simpa using not_relates_of_ne hearlier hother hnone (by omega) hd _
  have hown : (entryOf k (entriesBefore subpasses k) subpass).Relates k d ↔
      (entryOf k (entriesBefore subpasses k) subpass).dstSubpass = d := by
    rw [SubpassDependency.Relates, srcSubpass_entryOf k _ hdeps, and_iff_right rfl]
    exact or_iff_left fun h => absurd h.1 (Nat.ne_of_gt hd)
  rw [hentries, List.countP_append, List.countP_cons, hbefore, hafter]
  simp [hown]

/-- **The dependencies of a render pass.** For every sequence of `addSubpass` on a new or reset
render pass, each with attachments for colour and any list of earlier subpasses: `createRenderPass`
is given exactly one entry for each subpass and each index in its list, and no other, exactly when
no subpass has two different indices in its list, and each index is `0` or smaller than the number
of subpasses before that have a list. -/
theorem dependenciesComplete_iff (growth : Growth) {lists : RenderPassLists}
    (hempty : lists.FreshOrReset) {subpasses : List Subpass}
    (h : ∀ subpass ∈ subpasses, subpass.attachmentDeps ≠ [])
    (hearlier : DependsOnEarlier subpasses) :
    (lists.addSubpasses growth subpasses).makeRenderPass.DependenciesComplete subpasses ↔
      ∀ (k : Nat) (subpass : Subpass), subpasses[k]? = some subpass →
        ∀ d ∈ subpass.subpassDeps, (∀ other ∈ subpass.subpassDeps, other = d) ∧
          (d = 0 ∨ d < entriesBefore subpasses k) := by
  obtain ⟨-, -, -, -, hsubpasses, hdependencies⟩ := hempty.empty
  have hentries : (lists.addSubpasses growth subpasses).makeRenderPass.dependencies =
      entriesFrom 0 0 subpasses := by
    rw [makeRenderPass, dependencies_addSubpasses growth h, hsubpasses, hdependencies]
    rfl
  constructor
  · intro hcomplete k subpass hget
    refine (forall_dstSubpass_eq_iff k _ subpass).mp fun d hd => ?_
    have honce := hcomplete.once k subpass hget d hd
    rw [hentries, countP_relates hearlier hget hd] at honce
    by_contra hother
    simp [hother] at honce
  · intro hfits
    have hends : ∀ (k : Nat) (subpass : Subpass), subpasses[k]? = some subpass →
        ∀ d ∈ subpass.subpassDeps,
          (entryOf k (entriesBefore subpasses k) subpass).dstSubpass = d :=
      fun k subpass hget => (forall_dstSubpass_eq_iff k _ subpass).mpr (hfits k subpass hget)
    constructor
    · intro k subpass hget d hd
      rw [hentries, countP_relates hearlier hget hd, if_pos (hends k subpass hget d hd)]
    · intro entry hentry
      rw [hentries] at hentry
      obtain ⟨k, subpass, hget, hdeps, rfl⟩ := exists_of_mem_entriesFrom hentry
      obtain ⟨d, hd⟩ := List.exists_mem_of_ne_nil _ hdeps
      simp only [Nat.zero_add]
      exact ⟨k, subpass, hget, d, hd,
        Or.inl ⟨srcSubpass_entryOf k _ hdeps, hends k subpass hget d hd⟩⟩

/-- A second subpass that depends on the first: its one dependency becomes an entry. -/
theorem dependenciesComplete_iff_second :
    let subpasses : List Subpass := [.plain, { Subpass.plain with subpassDeps := [0] }]
    (({} : RenderPassLists).addSubpasses .doubling subpasses).makeRenderPass.DependenciesComplete
        subpasses ↔
      ∀ (k : Nat) (subpass : Subpass), subpasses[k]? = some subpass →
        ∀ d ∈ subpass.subpassDeps, (∀ other ∈ subpass.subpassDeps, other = d) ∧
          (d = 0 ∨ d < entriesBefore subpasses k) :=
  dependenciesComplete_iff .doubling (Or.inl rfl) (by decide) fun k subpass hget d hd => by
    match k, hget with
    | 0, rfl => cases hd
    | 1, rfl => simpa using hd

/-- A third subpass that depends on the first two gets one entry for both. -/
theorem not_dependenciesComplete : ¬ ∀ (growth : Growth) (lists : RenderPassLists)
    (subpasses : List Subpass), lists.FreshOrReset →
      (∀ subpass ∈ subpasses, subpass.attachmentDeps ≠ []) → DependsOnEarlier subpasses →
      (lists.addSubpasses growth subpasses).makeRenderPass.DependenciesComplete subpasses := by
  intro h
  let third : Subpass := { Subpass.plain with subpassDeps := [0, 1] }
  have hcomplete := h .doubling {} [.plain, .plain, third] (Or.inl rfl) (by decide)
    fun k subpass hget d hd => by
      match k, hget with
      | 0, rfl => cases hd
      | 1, rfl => cases hd
      | 2, rfl =>
          have hcases : d = 0 ∨ d = 1 := by simpa [third] using hd
          omega
  exact absurd (hcomplete.once 2 third rfl 1 (by decide)) (by decide)

end RenderPassLists

end Nyx
