import OzPos.Client.Rebuild
import OzPos.Library.Outcome

namespace OzPos

namespace DomainTables

variable {κ : Type} {d : DomainTables κ}

structure Rebuildable (w : StockBindings) (now : String) (d : DomainTables κ) (item : String) :
    Prop where
  heal : HealFits d item
  filled : 0 < (d.view item).gap → canonicalDefaultLocation ∈ d.locations
  cells : ∀ location ∈ (d.healed now item).movedLocations item,
    CellFits w (d.healed now item) item location
  total : (d.healed now item).hasMovements item = true →
    InStock ((d.healed now item).movementSum item) ∧ (d.products.find? item).isSome ∧
      canonicalDefaultLocation ∈ d.locations

structure Rebuilt (now : String) (d d' : DomainTables κ) (item : String) : Prop where
  frame : StockOnly d d'
  ledger : d'.stockMovements = (d.healed now item).stockMovements
  here : d'.view item = (d.view item).rebuilt now item
  others : ∀ other, other ≠ item → d'.view other = d.view other

variable {d' : DomainTables κ}

theorem StockOnly.symm (h : StockOnly d d') : StockOnly d' d := by
  obtain ⟨_, _, _, rfl⟩ := h
  exact ⟨_, _, _, rfl⟩

theorem find?_clearSummary (item location : String) :
    (d.clearSummary item).stockSummary.find? (item, location) = none := by
  rw [Table.find?_eq_none_iff]
  intro row hrow hcell
  have hitem : row.itemId = item := congrArg Prod.fst hcell
  have hkept := (List.mem_filter.mp hrow).2
  simp [hitem] at hkept

/-- What clearing and summing up again leaves of one product. -/
structure Resummed (now : String) (d d' : DomainTables κ) (item : String) : Prop where
  frame : StockOnly d d'
  ledger : d'.stockMovements = d.stockMovements
  here : d'.view item = (d.view item).resummed now item
  others : ∀ other, other ≠ item → d'.view other = d.view other

variable {now item : String}

theorem zeroInventory_idle (other : String)
    (hsum : d.hasMovements item = true → 0 ≤ d.movementSum item)
    (hheld : d.hasMovements item = true → d.inventory.find? item =
      some ⟨item, canonicalDefaultLocation, d.movementSum item, now⟩) :
    (d.zeroInventory now item).inventory.find? other = d.inventory.find? other := by
  unfold zeroInventory
  split
  · rename_i hzero
    rw [Table.find?_update]
    by_cases heq : other = item
    · have hnil : d.movementSum item = 0 := by
        have := hsum hzero.1
        omega
      rw [heq, hheld hzero.1, hnil]
      simp
    · simp only [heq, if_false, Option.map_id']
  · rfl

theorem resummed_of_groups
    {t : Table (String × String) SummaryRow SummaryRow.cell}
    (ht : t.rows = (d.clearSummary item).stockSummary.rows ++
      (d.movedLocations item).map (fun l => ⟨item, l, d.movementTotal item l, now⟩)) (hsum : d.hasMovements item = true → 0 ≤ d.movementSum item)
    (hd' : d' = if d.hasMovements item then
        { d with
          stockSummary := t
          inventory := d.inventory.upsert ⟨item, canonicalDefaultLocation, d.movementSum item, now⟩ }
        else { d with stockSummary := t }) :
    Resummed now d (d'.zeroInventory now item) item := by
  have hkept : d'.stockMovements = d.stockMovements ∧ d'.stockSummary = t ∧ StockOnly d d' := by
    subst hd'
    split <;> exact ⟨rfl, rfl, _, _, _, rfl⟩
  have hzero : ∀ x : DomainTables κ, (x.zeroInventory now item).stockMovements = x.stockMovements ∧
      (x.zeroInventory now item).stockSummary = x.stockSummary ∧
      StockOnly x (x.zeroInventory now item) := by
    intro x
    unfold zeroInventory
    split <;> exact ⟨rfl, rfl, _, _, _, rfl⟩
  have hmoved : d'.hasMovements item = d.hasMovements item := by
    rw [hasMovements, hasMovements, hkept.1]
  have hbooked : d'.movementSum item = d.movementSum item := by
    rw [movementSum, movementSum, hkept.1]
  have hfound : ∀ other, d'.inventory.find? other =
      if other = item ∧ d.hasMovements item = true then
        some ⟨item, canonicalDefaultLocation, d.movementSum item, now⟩
      else d.inventory.find? other := by
    intro other
    subst hd'
    cases d.hasMovements item with
    | false => simp
    | true =>
      simp only [if_true, and_true]
      rw [Table.find?_upsert]
      by_cases heq : other = item
      · subst heq
        rw [if_pos rfl]
      · rw [if_neg heq, if_neg (Ne.symm heq)]
  have hinventory : ∀ other, (d'.zeroInventory now item).inventory.find? other =
      if other = item ∧ d.hasMovements item = true then
        some ⟨item, canonicalDefaultLocation, d.movementSum item, now⟩
      else d.inventory.find? other := by
    intro other
    rw [zeroInventory_idle other (by rwa [hmoved, hbooked]), hfound]
    intro h
    rw [hmoved] at h
    rw [hfound, if_pos ⟨rfl, h⟩, hbooked]
  have hrows : ∀ other, (d'.zeroInventory now item).stockSummary.rows.filter
      (fun row => row.itemId = other) = if other = item then
        (d.movedLocations item).map (fun l => ⟨item, l, d.movementTotal item l, now⟩)
      else d.stockSummary.rows.filter (fun row => row.itemId = other) := by
    intro other
    have hcleared : (d.clearSummary item).stockSummary.rows =
      d.stockSummary.rows.filter (fun row => row.itemId ≠ item) := rfl
    rw [(hzero d').2.1, hkept.2.1, ht, hcleared, List.filter_append, List.filter_filter]
    split
    · rename_i heq
      subst heq
      rw [List.filter_eq_nil_iff.mpr (by simp), List.nil_append, List.filter_eq_self]
      intro row hrow
      obtain ⟨l, _, rfl⟩ := List.mem_map.mp hrow
      simp
    · rename_i hne
      have hgroups : ((d.movedLocations item).map (fun l =>
          (⟨item, l, d.movementTotal item l, now⟩ : SummaryRow))).filter
            (fun row => row.itemId = other) = [] := by
        rw [List.filter_eq_nil_iff]
        intro row hrow
        obtain ⟨l, _, rfl⟩ := List.mem_map.mp hrow
        simpa using Ne.symm hne
      rw [hgroups, List.append_nil]
      apply List.filter_congr
      intro row _
      by_cases heq : row.itemId = other <;> simp [heq, hne]
  have hledger := (hzero d').1.trans hkept.1
  refine ⟨hkept.2.2.trans (hzero d').2.2, hledger, ?_, ?_⟩
  · rw [view, hrows, hinventory, hledger, if_pos rfl, ProductView.resummed, movedLocations_eq]
    simp only [view_movementTotal, view_movementSum, true_and]
    congr 1
    by_cases hnil : (d.view item).ledger = []
    · rw [if_neg (by rw [view_hasMovements]; simpa using hnil), if_pos hnil]
      rfl
    · rw [if_pos ((view_hasMovements item).mpr hnil), if_neg hnil]
  · intro other hne
    rw [view, hrows, hinventory, hledger, if_neg hne, if_neg (fun h => hne h.1)]
    rfl

variable {w : StockBindings}

theorem rebuildProduct_ok (htagged : Tagged d)
    {n : Nat} (h : d.rebuildProduct w now item = .ok (n, d')) :
    Rebuildable w now d item ∧ Rebuilt now d d' item := by
  unfold rebuildProduct at h
  obtain ⟨gap, hgap, h⟩ := Except.of_bind h
  obtain ⟨hheal, rfl⟩ := (shortfall_ok_iff d item gap).mp hgap
  obtain ⟨d₁, hbackfill, h⟩ := Except.of_bind h
  obtain ⟨hfilled, rfl⟩ := (backfill_ok_iff now item d d₁).mp hbackfill
  obtain ⟨d₂, hgroups, h⟩ := Except.of_bind h
  obtain ⟨hcells, t, ht, rfl⟩ := (insertSummaryGroups_ok_iff (List.nodup_dedup _)
    (fun location _ => find?_clearSummary item location) d₂).mp hgroups
  obtain ⟨d₃, hinventory, h⟩ := Except.of_map h
  obtain ⟨htotal, hd₃⟩ := (rebuildInventory_ok_iff now item d₃).mp hinventory
  obtain ⟨-, rfl⟩ := Prod.mk.inj h
  have hr : Resummed now (d.healed now item) (d₃.zeroInventory now item) item :=
    resummed_of_groups ht (fun hmoved => (htotal hmoved).1.1) hd₃
  refine ⟨⟨hheal, ?_, hcells, htotal⟩, StockOnly.trans ⟨_, _, _, rfl⟩ hr.frame, hr.ledger, ?_, ?_⟩
  · intro hpos
    have hmoved : (d.healed now item).hasMovements item = true := by
      rw [view_hasMovements, view_healed htagged]
      simp only [ProductView.healedLedger, hpos, if_true]
      exact ProductView.backfilled_ne_nil _ _ _ _
    exact (htotal hmoved).2.2
  · rw [hr.here, view_healed htagged]
    rfl
  · intro other hne
    rw [hr.others other hne, view_healed_other htagged now hne]

theorem rebuildProduct_of_rebuildable
    (h : Rebuildable w now d item) : ∃ n d', d.rebuildProduct w now item = .ok (n, d') := by
  have hgap := (shortfall_ok_iff d item _).mpr ⟨h.heal, rfl⟩
  have hbackfill := (backfill_ok_iff now item d _).mpr ⟨fun hpos => Or.inr (h.filled hpos), rfl⟩
  have hrows : ∃ t : Table (String × String) SummaryRow SummaryRow.cell,
      t.rows = ((d.healed now item).clearSummary item).stockSummary.rows ++
        ((d.healed now item).movedLocations item).map
          (fun l => ⟨item, l, (d.healed now item).movementTotal item l, now⟩) := by
    refine ⟨⟨_, ?_⟩, rfl⟩
    rw [List.map_append, List.nodup_append, List.map_map]
    refine ⟨Table.unique _, ?_, ?_⟩
    · refine List.Nodup.map ?_ (List.nodup_dedup _)
      intro l m hlm
      exact congrArg Prod.snd hlm
    · intro x hx y hy hxy
      obtain ⟨row, hrow, rfl⟩ := List.mem_map.mp hx
      obtain ⟨l, _, rfl⟩ := List.mem_map.mp hy
      have hnone := find?_clearSummary (d := d.healed now item) item l
      rw [Table.find?_eq_none_iff] at hnone
      exact hnone row hrow hxy
  obtain ⟨t, ht⟩ := hrows
  have hgroups := (insertSummaryGroups_ok_iff (List.nodup_dedup _)
    (fun location _ => find?_clearSummary (d := d.healed now item) item location) _).mpr
      ⟨h.cells, t, ht, rfl⟩
  have hinventory := (rebuildInventory_ok_iff now item
    (d := { (d.healed now item).clearSummary item with stockSummary := t }) _).mpr ⟨h.total, rfl⟩
  refine ⟨_, _, Except.bind_ok_iff.mpr ⟨_, hgap, Except.bind_ok_iff.mpr ⟨_, hbackfill, Except.bind_ok_iff.mpr
    ⟨_, hgroups, Except.map_ok_iff.mpr ⟨_, hinventory, rfl⟩⟩⟩⟩⟩

def SameCells (l r : List StockMovement) : Prop :=
  ∀ location, (location ∈ ProductView.cells l ↔ location ∈ ProductView.cells r) ∧
    ProductView.bookedAt l location = ProductView.bookedAt r location

theorem SameCells.refl (l : List StockMovement) : SameCells l l := fun _ => ⟨Iff.rfl, rfl⟩

theorem SameCells.booked {l r : List StockMovement} (h : SameCells l r) :
    ProductView.booked l = ProductView.booked r := by
  have hperm : (ProductView.cells l).Perm (ProductView.cells r) :=
    (List.perm_ext_iff_of_nodup (List.nodup_dedup _) (List.nodup_dedup _)).mpr
      (fun location => (h location).1)
  rw [← ProductView.sum_cells, ← ProductView.sum_cells, ← (hperm.map _).sum_eq]
  congr 1
  exact List.map_congr_left (fun location _ => (h location).2)

variable {d₁ : DomainTables κ}

theorem HealFits.congr (h : HealFits d item)
    (hinventory : d₁.inventoryQty item = d.inventoryQty item)
    (hsum : d₁.movementSum item = d.movementSum item)
    (hgap : (d₁.view item).gap = (d.view item).gap)
    (hsummary : (d₁.view item).summary = (d.view item).summary) : HealFits d₁ item := by
  obtain ⟨hbooked, hfits, hrows⟩ := h
  have hlocations : d₁.hasLocationRows item = d.hasLocationRows item := by
    rw [Bool.eq_iff_iff, view_hasLocationRows, view_hasLocationRows, hsummary]
  refine ⟨?_, by rwa [hgap], ?_⟩
  · rwa [hinventory, hsum]
  · rwa [hinventory, hsum, hlocations, view_summaryTotal, ProductView.total, hsummary,
      ← ProductView.total, ← view_summaryTotal]

theorem Rebuildable.congr {later : String}
    (htagged : Tagged d) (htagged₁ : Tagged d₁) (hframe : StockOnly d d₁)
    (hheal : HealFits d₁ item) (hgap : (d₁.view item).gap = (d.view item).gap)
    (hcells : SameCells ((d₁.view item).healedLedger later item)
      ((d.view item).healedLedger now item)) (h : Rebuildable w now d item) :
    Rebuildable w later d₁ item := by
  have hproducts : d₁.products = d.products := by
    obtain ⟨_, _, _, rfl⟩ := hframe
    rfl
  have hledger : ((d.healed now item).view item).ledger = (d.view item).healedLedger now item := by
    rw [view_healed htagged]
  have hledger₁ : ((d₁.healed later item).view item).ledger =
      (d₁.view item).healedLedger later item := by
    rw [view_healed htagged₁]
  refine ⟨hheal, ?_, ?_, ?_⟩
  · rw [hgap, hframe.locations]
    exact h.filled
  · intro location hlocation
    rw [movedLocations_eq, hledger₁, (hcells location).1] at hlocation
    have hfits := h.cells location (by rwa [movedLocations_eq, hledger])
    unfold CellFits at hfits ⊢
    rw [view_movementTotal, hledger] at hfits
    rw [view_movementTotal, hledger₁, (hcells location).2]
    exact ⟨hfits.1, hfits.2.1, hproducts ▸ hfits.2.2.1, hframe.locations ▸ hfits.2.2.2⟩
  · intro hmoved
    rw [view_hasMovements, hledger₁] at hmoved
    obtain ⟨m, hm⟩ := List.exists_mem_of_ne_nil _ hmoved
    have hmem := (hcells m.locationId).1.mp (ProductView.mem_cells.mpr ⟨m, hm, rfl⟩)
    obtain ⟨m', hm', _⟩ := ProductView.mem_cells.mp hmem
    have htotal := h.total (by
      rw [view_hasMovements, hledger]
      exact List.ne_nil_of_mem hm')
    rw [view_movementSum, hledger] at htotal
    rw [view_movementSum, hledger₁, hcells.booked, hproducts, hframe.locations]
    exact htotal

theorem Rebuildable.of_view (htagged : Tagged d) (htagged₁ : Tagged d₁) (hframe : StockOnly d d₁)
    (hview : d₁.view item = d.view item) (h : Rebuildable w now d item) :
    Rebuildable w now d₁ item := by
  refine h.congr htagged htagged₁ hframe (h.heal.congr ?_ ?_ ?_ ?_) ?_ ?_
  · rw [view_inventoryQty, view_inventoryQty, hview]
  · rw [view_movementSum, view_movementSum, hview]
  · rw [hview]
  · rw [hview]
  · rw [hview]
  · rw [hview]
    exact SameCells.refl _

theorem Tagged.rebuilt (h : Tagged d) (hr : Rebuilt now d d₁ item) : Tagged d₁ := by
  have hhealed := h.healed now item
  rw [Tagged, ← hr.ledger] at hhealed
  exact hhealed

theorem rebuildStockSummaryFor_ok {items : List String} (hn : items.Nodup) (htagged : Tagged d)
    {n : Nat} (h : d.rebuildStockSummaryFor w now items = .ok (n, d')) :
    (∀ item ∈ items, Rebuildable w now d item ∧ d'.view item = (d.view item).rebuilt now item) ∧
      (∀ item, item ∉ items → d'.view item = d.view item) ∧ StockOnly d d' ∧ Tagged d' := by
  induction items generalizing d n with
  | nil =>
    cases h
    exact ⟨by simp, fun _ _ => rfl, StockOnly.refl _, htagged⟩
  | cons item rest ih =>
    obtain ⟨hnew, hn⟩ := List.nodup_cons.mp hn
    unfold rebuildStockSummaryFor at h
    split at h
    · cases h
    · rename_i rebuilt d₁ hproduct
      obtain ⟨hable, hr⟩ := rebuildProduct_ok htagged hproduct
      obtain ⟨⟨m, d₂⟩, hrest, heq⟩ := Except.of_map h
      obtain ⟨-, rfl⟩ := Prod.mk.inj heq
      have hother : ∀ other ∈ rest, other ≠ item := by
        intro other hother heq
        exact hnew (heq ▸ hother)
      have htagged₁ := htagged.rebuilt hr
      obtain ⟨hhere, hkept, hframe, htagged'⟩ := ih hn htagged₁ hrest
      refine ⟨List.forall_mem_cons.mpr ⟨⟨hable, ?_⟩, ?_⟩, ?_, hr.frame.trans hframe, htagged'⟩
      · rw [hkept item hnew, hr.here]
      · intro other ho
        obtain ⟨hother', hview⟩ := hhere other ho
        have hsame := hr.others other (hother other ho)
        rw [hsame] at hview
        exact ⟨hother'.of_view htagged₁ htagged hr.frame.symm hsame.symm, hview⟩
      · intro other ho
        rw [List.mem_cons, not_or] at ho
        rw [hkept other ho.2, hr.others other ho.1]

theorem rebuildStockSummaryFor_of_rebuildable {items : List String} (hn : items.Nodup)
    (htagged : Tagged d) (h : ∀ item ∈ items, Rebuildable w now d item) :
    ∃ n d', d.rebuildStockSummaryFor w now items = .ok (n, d') := by
  induction items generalizing d with
  | nil => exact ⟨0, d, rfl⟩
  | cons item rest ih =>
    obtain ⟨hnew, hn⟩ := List.nodup_cons.mp hn
    obtain ⟨n, d₁, hproduct⟩ := rebuildProduct_of_rebuildable (h item (List.mem_cons_self ..))
    obtain ⟨_, hr⟩ := rebuildProduct_ok htagged hproduct
    have hother : ∀ other ∈ rest, other ≠ item := by
      intro other hother heq
      exact hnew (heq ▸ hother)
    have htagged₁ := htagged.rebuilt hr
    obtain ⟨m, d₂, hrest⟩ := ih hn htagged₁
      (fun other ho => (h other (List.mem_cons_of_mem _ ho)).of_view htagged htagged₁ hr.frame
        (hr.others other (hother other ho)))
    refine ⟨n + m, d₂, ?_⟩
    rw [rebuildStockSummaryFor, hproduct]
    exact Except.map_ok_iff.mpr ⟨(m, d₂), hrest, rfl⟩

end DomainTables

end OzPos
