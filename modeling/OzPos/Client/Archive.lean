import OzPos.Client.RebuildSafety

namespace OzPos

def archiveRollupReason : String := "archive-rollup"

variable (cutoff : String)

/-- `created_at < cutoff AND reason != 'archive-rollup'`; a row without a reason never matches. -/
def StockMovement.archivable (m : StockMovement) : Bool :=
  m.createdAt < cutoff && m.reason.any (fun reason => reason ≠ archiveRollupReason)

def groupRows (cutoff item : String) (ledger : List StockMovement) : List StockMovement :=
  ledger.filter (fun m => m.itemId = item && m.archivable cutoff)

def rollupRow (now item : String) (total : Int) : StockMovement :=
  ⟨none, item, canonicalDefaultLocation, total, some archiveRollupReason, none, none, "", now⟩

/-- The live tables, and `stock_movements_archive`. -/
structure ArchiveDb (κ : Type) where
  live : DomainTables κ
  archived : List StockMovement

namespace ArchiveDb

variable {κ : Type}

def conflicts (archived rows : List StockMovement) : Bool :=
  rows.any (fun m => m.id.isSome && archived.any (fun old => old.id = m.id))

/-- One transaction: the old rows are copied, rolled up into one and deleted. -/
def archiveGroup (cutoff now item : String) (db : ArchiveDb κ) : Except CoreError (ArchiveDb κ) :=
  let rows := groupRows cutoff item db.live.stockMovements
  if conflicts db.archived rows then
    .error (.db "UNIQUE constraint failed: stock_movements_archive.id")
  else
    match checkedI64 (ProductView.booked rows) with
    | none => .error (.db "integer overflow")
    | some total =>
      (db.live.appendMovement (rollupRow now item total)).map fun live =>
        { live := { live with
            stockMovements := live.stockMovements.filter (fun m =>
              !(m.itemId = item && m.archivable cutoff)) }
          archived := db.archived ++ rows }

/-- A group that fails ends the call; the groups before it stay archived. -/
def archiveGroups (cutoff now : String) :
    List String → ArchiveDb κ → ArchiveDb κ × Except CoreError Nat
  | [], db => (db, .ok 0)
  | item :: rest, db =>
    match db.archiveGroup cutoff now item with
    | .error e => (db, .error e)
    | .ok db =>
      let (db, groups) := archiveGroups cutoff now rest db
      (db, groups.map (· + 1))

/-- `SELECT DISTINCT item_id … LIMIT`; `order` is the order the query meets the products in. -/
def archiveItems (order : List String) (maxGroups : Nat)
    (ledger : List StockMovement) : List String :=
  (order.filter (fun item => !(groupRows cutoff item ledger).isEmpty)).dedup.take maxGroups

def archiveStockMovements (cutoff now : String) (order : List String) (maxGroups : Nat)
    (db : ArchiveDb κ) : ArchiveDb κ × Except CoreError Nat :=
  archiveGroups cutoff now (archiveItems cutoff order maxGroups db.live.stockMovements) db

def archives (db : ArchiveDb κ) (item : String) : Bool :=
  !conflicts db.archived (groupRows cutoff item db.live.stockMovements) &&
    (checkedI64 (ProductView.booked (groupRows cutoff item db.live.stockMovements))).isSome &&
    canonicalDefaultLocation ∈ db.live.locations

/-- The products a call archives: those before the first group that fails. -/
def archivedItems (order : List String) (maxGroups : Nat) (db : ArchiveDb κ) : List String :=
  (archiveItems cutoff order maxGroups db.live.stockMovements).takeWhile (db.archives cutoff)

end ArchiveDb

def rolledUp (cutoff now : String) (items : List String) (ledger : List StockMovement) :
    List StockMovement :=
  ledger.filter (fun m => !(m.itemId ∈ items && m.archivable cutoff)) ++
    items.map (fun item => rollupRow now item (ProductView.booked (groupRows cutoff item ledger)))

/-- `id` is the primary key, and the heal's fixed ids are on its own movements. -/
structure Keyed {κ : Type} (d : DomainTables κ) : Prop where
  unique : ∀ id, (d.stockMovements.filter (fun m => m.id = some id)).length ≤ 1
  tagged : d.Tagged

theorem not_archivable_rollup (cutoff now item : String) (total : Int) :
    (rollupRow now item total).archivable cutoff = false := by
  simp [StockMovement.archivable, rollupRow]

variable {items : List String} {cutoff now : String}

theorem groupRows_rolledUp {item : String} (h : item ∉ items) (ledger : List StockMovement) :
    groupRows cutoff item (rolledUp cutoff now items ledger) = groupRows cutoff item ledger := by
  have hrollups : (items.map (fun other => rollupRow now other
      (ProductView.booked (groupRows cutoff other ledger)))).filter
        (fun m => m.itemId = item && m.archivable cutoff) = [] := by
    rw [List.filter_eq_nil_iff]
    intro m hm
    obtain ⟨other, _, rfl⟩ := List.mem_map.mp hm
    simp [not_archivable_rollup]
  rw [rolledUp, groupRows, List.filter_append, hrollups, List.append_nil, List.filter_filter,
    groupRows]
  apply List.filter_congr
  intro m _
  by_cases hitem : m.itemId = item
  · simp [hitem, h]
  · simp [hitem]

theorem rolledUp_cons {item : String} (h : item ∉ items) (ledger : List StockMovement) :
    rolledUp cutoff now items (rolledUp cutoff now [item] ledger) =
      rolledUp cutoff now (item :: items) ledger := by
  have hrows : ∀ other ∈ items, groupRows cutoff other (rolledUp cutoff now [item] ledger) =
      groupRows cutoff other ledger := by
    intro other hother
    apply groupRows_rolledUp
    intro hmem
    exact h (List.mem_singleton.mp hmem ▸ hother)
  have hmap := List.map_congr_left (f := fun other => rollupRow now other
    (ProductView.booked (groupRows cutoff other (rolledUp cutoff now [item] ledger))))
    (fun other hother => by rw [hrows other hother])
  rw [rolledUp, hmap]
  simp only [rolledUp, List.filter_append, List.filter_filter, List.map_cons, List.map_nil,
    List.filter_cons, List.filter_nil, not_archivable_rollup, Bool.and_false, Bool.not_false,
    if_true, List.append_assoc, List.singleton_append]
  congr 1
  apply List.filter_congr
  intro m _
  by_cases hitem : m.itemId = item
  · by_cases hmem : m.itemId ∈ items <;> simp [hitem, h]
  · by_cases hmem : m.itemId ∈ items <;> simp [hitem, hmem]

namespace ArchiveDb

variable {κ : Type} {db : ArchiveDb κ} {cutoff now : String}

theorem archiveGroup_ok {item : String} (h : db.archives cutoff item = true) :
    db.archiveGroup cutoff now item = .ok
      ⟨{ db.live with stockMovements := rolledUp cutoff now [item] db.live.stockMovements },
        db.archived ++ groupRows cutoff item db.live.stockMovements⟩ := by
  unfold archives at h
  rw [Bool.and_eq_true, Bool.and_eq_true, Bool.not_eq_true', decide_eq_true_eq] at h
  obtain ⟨⟨hfree, hfits⟩, hhome⟩ := h
  obtain ⟨total, htotal⟩ := Option.isSome_iff_exists.mp hfits
  have hsame := ((checkedI64_eq_some_iff _ _).mp htotal).1
  simp only [archiveGroup, hfree, Bool.false_eq_true, if_false, htotal, DomainTables.appendMovement]
  rw [if_pos (show (rollupRow now item total).locationId ∈ db.live.locations from hhome)]
  simp only [Except.map, List.filter_append, rolledUp, List.mem_singleton, List.map_cons,
    List.map_nil, List.filter_cons, List.filter_nil, not_archivable_rollup, Bool.and_false,
    Bool.not_false, if_true, hsame]

theorem archiveGroup_error {item : String} (h : db.archives cutoff item = false) :
    ∃ e, db.archiveGroup cutoff now item = .error e := by
  unfold archives at h
  cases hfree : conflicts db.archived (groupRows cutoff item db.live.stockMovements) with
  | true =>
    exact ⟨.db "UNIQUE constraint failed: stock_movements_archive.id", by simp [archiveGroup, hfree]⟩
  | false =>
    cases hfits : checkedI64 (ProductView.booked
        (groupRows cutoff item db.live.stockMovements)) with
    | none => exact ⟨.db "integer overflow", by simp [archiveGroup, hfree, hfits]⟩
    | some total =>
      have hhome : canonicalDefaultLocation ∉ db.live.locations := by
        simpa [hfree, hfits] using h
      refine ⟨.db "FOREIGN KEY constraint failed", ?_⟩
      simp [archiveGroup, hfree, hfits, DomainTables.appendMovement, rollupRow, hhome, Except.map]

theorem conflicts_append {archived more rows : List StockMovement}
    (h : ∀ m ∈ rows, m.id.isSome → ∀ old ∈ more, old.id ≠ m.id) :
    conflicts (archived ++ more) rows = conflicts archived rows := by
  unfold conflicts
  rw [Bool.eq_iff_iff, List.any_eq_true, List.any_eq_true]
  constructor
  · rintro ⟨m, hm, hconflict⟩
    obtain ⟨hid, hany⟩ := Bool.and_eq_true_iff.mp hconflict
    obtain ⟨old, hold, heq⟩ := List.any_eq_true.mp hany
    rcases List.mem_append.mp hold with hold | hold
    · exact ⟨m, hm, Bool.and_eq_true_iff.mpr ⟨hid, List.any_eq_true.mpr ⟨old, hold, heq⟩⟩⟩
    · exact absurd (of_decide_eq_true heq) (h m hm hid old hold)
  · rintro ⟨m, hm, hconflict⟩
    refine ⟨m, hm, ?_⟩
    rw [List.any_append, Bool.and_or_distrib_left, hconflict]
    rfl

theorem eq_of_id {d : DomainTables κ} (h : Keyed d) {m old : StockMovement}
    (hm : m ∈ d.stockMovements) (hold : old ∈ d.stockMovements) (hid : m.id.isSome)
    (heq : old.id = m.id) : m = old := by
  obtain ⟨id, hsome⟩ := Option.isSome_iff_exists.mp hid
  have hone := h.unique id
  have hin : ∀ x ∈ d.stockMovements, x.id = m.id →
      x ∈ d.stockMovements.filter (fun m => m.id = some id) := by
    intro x hx hxid
    exact List.mem_filter.mpr ⟨hx, decide_eq_true (hxid.trans hsome)⟩
  have hm' := hin m hm rfl
  have hold' := hin old hold heq
  cases hrows : d.stockMovements.filter (fun m => m.id = some id) with
  | nil =>
    rw [hrows] at hm'
    cases hm'
  | cons first rest =>
    rw [hrows, List.length_cons] at hone
    obtain rfl := List.length_eq_zero_iff.mp (show rest.length = 0 by omega)
    rw [hrows, List.mem_singleton] at hm' hold'
    rw [hm', hold']

theorem keyed_rolledUp {d : DomainTables κ} (h : Keyed d) (items : List String) :
    Keyed { d with stockMovements := rolledUp cutoff now items d.stockMovements } := by
  refine ⟨?_, ?_⟩
  · intro id
    have hrollups : (items.map (fun item => rollupRow now item
        (ProductView.booked (groupRows cutoff item d.stockMovements)))).filter
          (fun m => m.id = some id) = [] := by
      rw [List.filter_eq_nil_iff]
      intro m hm
      obtain ⟨other, _, rfl⟩ := List.mem_map.mp hm
      simp [rollupRow]
    simp only [rolledUp, List.filter_append, hrollups, List.append_nil]
    exact (List.Sublist.length_le (List.filter_sublist.filter _)).trans (h.unique id)
  · intro m hm item hid
    rcases List.mem_append.mp hm with hm | hm
    · exact h.tagged m (List.mem_filter.mp hm).1 item hid
    · obtain ⟨other, _, rfl⟩ := List.mem_map.mp hm
      cases hid

theorem archiveGroups_live {p : String → Bool} (hkeyed : Keyed db.live)
    (hn : items.Nodup) (hp : ∀ item ∈ items, db.archives cutoff item = p item) :
    (archiveGroups cutoff now items db).1.live = { db.live with
      stockMovements := rolledUp cutoff now (items.takeWhile p) db.live.stockMovements } := by
  induction items generalizing db with
  | nil => simp [archiveGroups, rolledUp]
  | cons item rest ih =>
    obtain ⟨hnew, hn⟩ := List.nodup_cons.mp hn
    obtain ⟨hhere, hlater⟩ := List.forall_mem_cons.mp hp
    rw [List.takeWhile_cons, ← hhere]
    cases hgoes : db.archives cutoff item with
    | false =>
      obtain ⟨e, he⟩ : ∃ e, db.archiveGroup cutoff now item = .error e := archiveGroup_error hgoes
      rw [archiveGroups, he]
      simp [rolledUp]
    | true =>
      have hne : ∀ other ∈ rest, other ∉ [item] := by
        intro other hother hmem
        exact hnew (List.mem_singleton.mp hmem ▸ hother)
      rw [archiveGroups, archiveGroup_ok hgoes, if_pos rfl,
        ← rolledUp_cons (fun hmem => hnew ((List.takeWhile_sublist p).subset hmem))]
      refine (ih (keyed_rolledUp hkeyed [item]) hn ?_).trans rfl
      intro other hother
      rw [← hlater other hother]
      unfold archives
      simp only [groupRows_rolledUp (hne other hother)]
      rw [conflicts_append]
      intro m hm hid old hold heq
      obtain ⟨hm, hown⟩ := List.mem_filter.mp hm
      obtain ⟨hold, hown'⟩ := List.mem_filter.mp hold
      have hsame := eq_of_id hkeyed hm hold hid heq
      rw [Bool.and_eq_true, decide_eq_true_eq] at hown hown'
      exact hne other hother (List.mem_singleton.mpr (hown.1.symm.trans (hsame ▸ hown'.1)))

theorem archiveStockMovements_live (hkeyed : Keyed db.live) (order : List String)
    (maxGroups : Nat) :
    (archiveStockMovements cutoff now order maxGroups db).1.live = { db.live with
      stockMovements := rolledUp cutoff now (archivedItems cutoff order maxGroups db)
        db.live.stockMovements } :=
  archiveGroups_live hkeyed ((List.take_sublist _ _).nodup (List.nodup_dedup _)) (fun _ _ => rfl)

end ArchiveDb

namespace ProductView

def rolled (cutoff now item : String) (v : ProductView) : ProductView :=
  { v with
    ledger := v.ledger.filter (fun m => !m.archivable cutoff) ++
      [rollupRow now item (booked (v.ledger.filter (StockMovement.archivable cutoff)))] }

def bookedBackfill (item : String) (ledger : List StockMovement) : Int :=
  booked (ledger.filter (fun m => m.id = some (backfillId item)))

end ProductView

variable {κ : Type}

theorem view_rolledUp (cutoff now : String) (hn : items.Nodup)
    (d : DomainTables κ) (item : String) :
    ({ d with stockMovements := rolledUp cutoff now items d.stockMovements } :
        DomainTables κ).view item =
      if item ∈ items then (d.view item).rolled cutoff now item else d.view item := by
  have hgroup : groupRows cutoff item d.stockMovements =
      (d.stockMovements.filter (fun m => m.itemId = item)).filter
        (StockMovement.archivable cutoff) := by
    rw [groupRows, List.filter_filter]
    apply List.filter_congr
    intro m _
    exact Bool.and_comm _ _
  have hrollups : (items.map (fun other => rollupRow now other
      (ProductView.booked (groupRows cutoff other d.stockMovements)))).filter
        (fun m => m.itemId = item) = if item ∈ items then
      [rollupRow now item (ProductView.booked (groupRows cutoff item d.stockMovements))] else [] := by
    rw [List.filter_map]
    have hsame : ((fun m : StockMovement => decide (m.itemId = item)) ∘ fun other =>
        rollupRow now other (ProductView.booked (groupRows cutoff other d.stockMovements))) =
        fun other => decide (other = item) := rfl
    rw [hsame, List.filter_eq]
    split
    · rename_i hmem
      rw [List.count_eq_one_of_mem hn hmem]
      rfl
    · rename_i hmem
      rw [List.count_eq_zero_of_not_mem hmem]
      rfl
  have hkept : (rolledUp cutoff now items d.stockMovements).filter (fun m => m.itemId = item) =
      if item ∈ items then ((d.view item).rolled cutoff now item).ledger
      else (d.view item).ledger := by
    rw [rolledUp, List.filter_append, hrollups, List.filter_filter]
    split
    · rename_i hmem
      rw [ProductView.rolled, DomainTables.view, ← hgroup, List.filter_filter]
      congr 1
      apply List.filter_congr
      intro m _
      by_cases hitem : m.itemId = item <;> simp [hitem, hmem]
    · rename_i hmem
      rw [List.append_nil]
      apply List.filter_congr
      intro m _
      by_cases hitem : m.itemId = item <;> simp [hitem, hmem]
  split
  · rename_i hmem
    rw [if_pos hmem] at hkept
    rw [DomainTables.view, hkept]
    rfl
  · rename_i hmem
    rw [if_neg hmem] at hkept
    rw [DomainTables.view, hkept]
    rfl

namespace ProductView

theorem bookedAt_perm {l r : List StockMovement} (h : l.Perm r) (location : String) :
    bookedAt l location = bookedAt r location := (h.map _).sum_eq

variable (p : StockMovement → Bool) (l : List StockMovement)

theorem bookedAt_split (location : String) :
    bookedAt l location =
      bookedAt (l.filter p) location + bookedAt (l.filter (fun m => !p m)) location := by
  rw [← bookedAt_append, bookedAt_perm (List.filter_append_perm p l)]

theorem booked_split : booked l = booked (l.filter p) + booked (l.filter (fun m => !p m)) := by
  rw [← booked_append]
  exact ((List.filter_append_perm p l).map _).sum_eq.symm

theorem booked_of_even {l : List StockMovement} {home : String}
    (h : ∀ location, location ≠ home → bookedAt l location = 0) : booked l = bookedAt l home := by
  have hterms : (cells l).map (bookedAt l) =
      (cells l).map (fun location => if home = location then bookedAt l home else 0) := by
    apply List.map_congr_left
    intro location _
    by_cases heq : home = location
    · rw [if_pos heq, heq]
    · rw [if_neg heq, h location (Ne.symm heq)]
  rw [← sum_cells, hterms]
  by_cases hmem : home ∈ cells l
  · exact Grouping.sum_single_key (List.nodup_dedup _) hmem _
  · rw [bookedAt_of_not_mem hmem]
    simp

section Backfilled

variable {item : String} {l : List StockMovement}
  (hown : ∀ m ∈ l, m.id = some (backfillId item) → m.locationId = canonicalDefaultLocation)

include hown

theorem mem_cells_backfilled (now : String) (gap : Int) (location : String) :
    location ∈ cells (backfilled now item gap l) ↔
      location ∈ cells l ∨ location = canonicalDefaultLocation := by
  unfold backfilled
  split
  · rename_i hany
    obtain ⟨m, hm, hid⟩ := List.any_eq_true.mp hany
    have hhome := mem_cells.mpr ⟨m, hm, hown m hm (of_decide_eq_true hid)⟩
    have hmap : cells (l.map (fun m => if m.id = some (backfillId item) then
        { m with delta := gap, createdAt := now } else m)) = cells l := by
      unfold cells
      rw [List.map_map]
      congr 1
      apply List.map_congr_left
      intro m _
      simp only [Function.comp_apply]
      split <;> rfl
    rw [hmap]
    constructor
    · exact Or.inl
    · rintro (h | rfl)
      · exact h
      · exact hhome
  · simp [cells, DomainTables.backfillRow]

theorem bookedAt_backfilled
    (hunique : (l.filter (fun m => m.id = some (backfillId item))).length ≤ 1)
    (now : String) (gap : Int) (location : String) :
    bookedAt (backfilled now item gap l) location = bookedAt l location +
      if location = canonicalDefaultLocation then gap - bookedBackfill item l else 0 := by
  unfold backfilled
  split
  · rename_i hany
    obtain ⟨m, hm, hid⟩ := List.any_eq_true.mp hany
    have hin : m ∈ l.filter (fun m => m.id = some (backfillId item)) :=
      List.mem_filter.mpr ⟨hm, hid⟩
    obtain ⟨only, honly⟩ := List.length_eq_one_iff.mp
      (Nat.le_antisymm hunique (List.length_pos_of_mem hin))
    rw [honly, List.mem_singleton] at hin
    subst hin
    have hhome := hown m hm (of_decide_eq_true hid)
    have hperm := List.filter_append_perm (fun m => decide (m.id = some (backfillId item))) l
    rw [honly] at hperm
    have hrest : (l.filter (fun m => !decide (m.id = some (backfillId item)))).map
        (fun m => if m.id = some (backfillId item) then
          { m with delta := gap, createdAt := now } else m) =
        l.filter (fun m => !decide (m.id = some (backfillId item))) := by
      refine (List.map_congr_left ?_).trans (List.map_id _)
      intro other hother
      have hne := (List.mem_filter.mp hother).2
      rw [if_neg (by simpa using hne)]
      rfl
    rw [← bookedAt_perm (hperm.map _), ← bookedAt_perm hperm, List.map_append, hrest,
      bookedAt_append, bookedAt_append, bookedBackfill, honly]
    rw [decide_eq_true_eq] at hid
    by_cases heq : location = canonicalDefaultLocation
    · simp [bookedAt, booked, hid, hhome, heq]
      omega
    · simp [bookedAt, hid, hhome, heq, Ne.symm heq]
  · rename_i hnone
    have hzero : bookedBackfill item l = 0 := by
      rw [bookedBackfill, List.filter_eq_nil_iff.mpr]
      · rfl
      · intro m hm hid
        exact hnone (List.any_eq_true.mpr ⟨m, hm, hid⟩)
    rw [bookedAt_append, hzero, Int.sub_zero]
    by_cases heq : location = canonicalDefaultLocation
    · simp [bookedAt, DomainTables.backfillRow, heq]
    · simp [bookedAt, DomainTables.backfillRow, heq, Ne.symm heq]

end Backfilled

/-- The rows of a product as the primary key and the writers keep them. -/
structure Keyed (item : String) (v : ProductView) : Prop where
  unique : (v.ledger.filter (fun m => m.id = some (backfillId item))).length ≤ 1
  own : ∀ m ∈ v.ledger, m.id = some (backfillId item) → m.locationId = canonicalDefaultLocation

variable {item : String} {v : ProductView}

theorem mem_cells_healed (h : v.Keyed item) (now location : String) :
    location ∈ cells (v.healedLedger now item) ↔
      location ∈ cells v.ledger ∨ 0 < v.gap ∧ location = canonicalDefaultLocation := by
  unfold healedLedger
  by_cases hgap : 0 < v.gap
  · simp only [hgap, if_true, true_and, mem_cells_backfilled h.own]
  · simp [hgap]

theorem bookedAt_healed (h : v.Keyed item) (now location : String) :
    bookedAt (v.healedLedger now item) location = bookedAt v.ledger location +
      if 0 < v.gap ∧ location = canonicalDefaultLocation then
        v.gap - bookedBackfill item v.ledger else 0 := by
  unfold healedLedger
  by_cases hgap : 0 < v.gap
  · simp only [hgap, if_true, true_and, bookedAt_backfilled h.own h.unique]
  · simp [hgap]

theorem sameCells_healed (h : v.Keyed item) (now later : String) :
    DomainTables.SameCells (v.healedLedger later item) (v.healedLedger now item) := by
  intro location
  rw [mem_cells_healed h, mem_cells_healed h, bookedAt_healed h, bookedAt_healed h]
  exact ⟨Iff.rfl, rfl⟩

variable (cutoff : String)

/-- Away from the default location, what is archived comes to nothing. -/
def ArchivesEven (v : ProductView) : Prop :=
  ∀ location, location ≠ canonicalDefaultLocation →
    bookedAt (v.ledger.filter (StockMovement.archivable cutoff)) location = 0

/-- The rollup stands for the rows it is made of: they come to nothing away from the default
location, no other location loses its last row, the default location has one before, and what a
heal is about to book anew has not been archived. -/
structure RollsUp (item : String) (v : ProductView) : Prop where
  even : v.ArchivesEven cutoff
  kept : ∀ location ∈ cells v.ledger, location ≠ canonicalDefaultLocation →
    location ∈ cells (v.ledger.filter (fun m => !m.archivable cutoff))
  home : canonicalDefaultLocation ∈ cells v.ledger ∨ 0 < v.gap
  backfill : 0 < v.gap →
    bookedBackfill item (v.ledger.filter (StockMovement.archivable cutoff)) = 0

variable (now : String)

theorem bookedAt_rolled (location : String) :
    bookedAt (v.rolled cutoff now item).ledger location =
      bookedAt (v.ledger.filter (fun m => !m.archivable cutoff)) location +
        if location = canonicalDefaultLocation then
          booked (v.ledger.filter (StockMovement.archivable cutoff)) else 0 := by
  rw [rolled, bookedAt_append]
  by_cases heq : location = canonicalDefaultLocation
  · simp [bookedAt, rollupRow, heq]
  · simp [bookedAt, rollupRow, heq, Ne.symm heq]

theorem booked_rolled : booked (v.rolled cutoff now item).ledger = booked v.ledger := by
  rw [rolled, booked_append, booked_split (StockMovement.archivable cutoff) v.ledger, Int.add_comm]
  simp [booked, rollupRow]

theorem gap_rolled : (v.rolled cutoff now item).gap = v.gap := by
  rw [gap, gap, booked_rolled]
  rfl

theorem rolled_kept_iff :
    (∀ location, bookedAt (v.rolled cutoff now item).ledger location =
      bookedAt v.ledger location) ↔ v.ArchivesEven cutoff := by
  constructor
  · intro h location hne
    have hhere := h location
    rw [bookedAt_rolled, if_neg hne,
      bookedAt_split (StockMovement.archivable cutoff) v.ledger] at hhere
    omega
  · intro h location
    rw [bookedAt_rolled, bookedAt_split (StockMovement.archivable cutoff) v.ledger]
    by_cases heq : location = canonicalDefaultLocation
    · rw [if_pos heq, booked_of_even h, heq]
      omega
    · rw [if_neg heq, h location heq]
      omega

theorem Keyed.rolled (h : v.Keyed item) : (v.rolled cutoff now item).Keyed item := by
  refine ⟨?_, ?_⟩
  · have hrollup : [rollupRow now item (booked (v.ledger.filter
        (StockMovement.archivable cutoff)))].filter (fun m => m.id = some (backfillId item)) = [] :=
      rfl
    rw [ProductView.rolled, List.filter_append, hrollup, List.append_nil]
    exact (List.filter_sublist.filter _).length_le.trans h.unique
  · intro m hm hid
    rcases List.mem_append.mp hm with hm | hm
    · exact h.own m (List.mem_filter.mp hm).1 hid
    · rw [List.mem_singleton.mp hm] at hid
      cases hid

theorem bookedBackfill_rolled :
    bookedBackfill item (v.rolled cutoff now item).ledger =
      bookedBackfill item v.ledger -
        bookedBackfill item (v.ledger.filter (StockMovement.archivable cutoff)) := by
  have hrollup : [rollupRow now item (booked (v.ledger.filter
      (StockMovement.archivable cutoff)))].filter (fun m => m.id = some (backfillId item)) = [] :=
    rfl
  have hsplit := booked_split (StockMovement.archivable cutoff)
    (v.ledger.filter (fun m => m.id = some (backfillId item)))
  rw [bookedBackfill, ProductView.rolled, List.filter_append, hrollup, List.append_nil,
    bookedBackfill, hsplit, bookedBackfill,
    List.filter_comm _ (StockMovement.archivable cutoff) v.ledger,
    List.filter_comm _ (fun m => !m.archivable cutoff) v.ledger]
  omega

theorem sameCells_rolled_iff (h : v.Keyed item) (time later : String) :
    DomainTables.SameCells ((v.rolled cutoff now item).healedLedger later item)
      (v.healedLedger time item) ↔ v.RollsUp cutoff item := by
  have hrolled := h.rolled cutoff now
  have hcells : ∀ location, location ∈ cells (v.rolled cutoff now item).ledger ↔
      location ∈ cells (v.ledger.filter (fun m => !m.archivable cutoff)) ∨
        location = canonicalDefaultLocation := by
    intro location
    simp [rolled, cells, rollupRow]
  have hsub : ∀ location, location ∈ cells (v.ledger.filter (fun m => !m.archivable cutoff)) →
      location ∈ cells v.ledger := by
    intro location hmem
    obtain ⟨m, hm, hplace⟩ := mem_cells.mp hmem
    exact mem_cells.mpr ⟨m, (List.mem_filter.mp hm).1, hplace⟩
  unfold DomainTables.SameCells
  simp only [mem_cells_healed hrolled, mem_cells_healed h, bookedAt_healed hrolled,
    bookedAt_healed h, gap_rolled, hcells, bookedBackfill_rolled]
  constructor
  · intro hsame
    have heven : v.ArchivesEven cutoff := by
      intro location hne
      have hhere := (hsame location).2
      rw [bookedAt_rolled, bookedAt_split (StockMovement.archivable cutoff) v.ledger] at hhere
      simp only [hne, and_false, if_false] at hhere
      omega
    refine ⟨heven, ?_, ?_, ?_⟩
    · intro location hmem hne
      have hhere := (hsame location).1.mpr (Or.inl hmem)
      simpa [hne] using hhere
    · exact ((hsame canonicalDefaultLocation).1.mp (Or.inl (Or.inr rfl))).imp_right And.left
    · intro hgap
      have hhere := (hsame canonicalDefaultLocation).2
      rw [(rolled_kept_iff cutoff now).mpr heven] at hhere
      simp only [hgap, and_self, if_true] at hhere
      omega
  · intro hrolls location
    rw [(rolled_kept_iff cutoff now).mpr hrolls.even]
    refine ⟨?_, ?_⟩
    · by_cases heq : location = canonicalDefaultLocation
      · have hhome := hrolls.home
        subst heq
        simpa using hhome
      · simp only [heq, or_false, and_false]
        exact ⟨hsub location, fun hmem => hrolls.kept location hmem heq⟩
    · by_cases hgap : 0 < v.gap
      · rw [hrolls.backfill hgap, Int.sub_zero]
      · simp [hgap]

end ProductView

theorem Keyed.view {d : DomainTables κ} (h : Keyed d) (item : String) :
    (d.view item).Keyed item := by
  refine ⟨(List.filter_sublist.filter _).length_le.trans (h.unique _), ?_⟩
  intro m hm hid
  exact (h.tagged m (List.mem_filter.mp hm).1 item hid).2

/-- The rebuild goes through and makes these rows, whenever they were written. -/
def RebuildsTo {κ : Type} (w : StockBindings) (now : String) (d rebuilt : DomainTables κ) : Prop :=
  ∃ n again, d.rebuildStockSummary w now = .ok (n, again) ∧ ∀ item location,
    (again.stockSummary.find? (item, location)).map SummaryRow.qty =
      (rebuilt.stockSummary.find? (item, location)).map SummaryRow.qty

theorem rebuildsTo_iff {w : StockBindings} {time later : String}
    {d d' rebuilt : DomainTables κ} {n : Nat} (hkeyed : Keyed d)
    (hkeyed' : Keyed d') (hframe : DomainTables.StockOnly d d')
    (hmoved : ∀ item ∈ items, d.hasMovements item = true)
    (hview : ∀ item, d'.view item =
      if item ∈ items then (d.view item).rolled cutoff now item else d.view item)
    (h : d.rebuildStockSummary w time = .ok (n, rebuilt)) :
    RebuildsTo w later d' rebuilt ↔ ∀ item ∈ items, (d.view item).RollsUp cutoff item := by
  obtain ⟨hin, hout, _⟩ := DomainTables.rebuildStockSummary_ok hkeyed.tagged h
  have hscope : ∀ item, item ∈ d'.rebuildScope ↔ item ∈ d.rebuildScope := by
    intro item
    rw [DomainTables.mem_rebuildScope, DomainTables.mem_rebuildScope,
      DomainTables.view_hasMovements, DomainTables.view_hasLocationRows, hview]
    split
    · rename_i hmem
      simp [hmoved item hmem, ProductView.rolled]
    · rw [DomainTables.view_hasMovements, DomainTables.view_hasLocationRows]
  constructor
  · rintro ⟨_, again, hagain, hsame⟩ item hitem
    obtain ⟨hin', _⟩ := DomainTables.rebuildStockSummary_ok hkeyed'.tagged hagain
    have hmem := DomainTables.mem_rebuildScope.mpr (Or.inl (hmoved item hitem))
    have hbefore := (hin item hmem).2
    have hafter := (hin' item ((hscope item).mpr hmem)).2
    rw [hview, if_pos hitem] at hafter
    refine (ProductView.sameCells_rolled_iff cutoff now (hkeyed.view item) time later).mp ?_
    intro location
    have hrow := hsame item location
    rw [DomainTables.view_find?, DomainTables.view_find?, hbefore, hafter,
      ProductView.find?_rebuilt, ProductView.find?_rebuilt] at hrow
    split at hrow
    · rename_i hcell
      split at hrow
      · rename_i hcell'
        exact ⟨⟨fun _ => hcell', fun _ => hcell⟩, Option.some.inj hrow⟩
      · cases hrow
    · rename_i hcell
      split at hrow
      · cases hrow
      · rename_i hcell'
        rw [ProductView.bookedAt_of_not_mem hcell, ProductView.bookedAt_of_not_mem hcell']
        exact ⟨⟨fun hmem => absurd hmem hcell, fun hmem => absurd hmem hcell'⟩, rfl⟩
  · intro hrolls
    have hcells : ∀ item, DomainTables.SameCells ((d'.view item).healedLedger later item)
        ((d.view item).healedLedger time item) := by
      intro item
      rw [hview]
      split
      · rename_i hitem
        exact (ProductView.sameCells_rolled_iff cutoff now (hkeyed.view item) time later).mpr
          (hrolls item hitem)
      · exact ProductView.sameCells_healed (hkeyed.view item) time later
    have hgap : ∀ item, (d'.view item).gap = (d.view item).gap := by
      intro item
      rw [hview]
      split
      · exact ProductView.gap_rolled cutoff now
      · rfl
    have hable : ∀ item ∈ d'.rebuildScope, d'.Rebuildable w later item := by
      intro item hitem
      have h := (hin item ((hscope item).mp hitem)).1
      refine h.congr hkeyed.tagged hkeyed'.tagged hframe (h.heal.congr ?_ ?_ (hgap item) ?_)
        (hgap item) (hcells item)
      · rw [DomainTables.view_inventoryQty, DomainTables.view_inventoryQty, hview]
        split <;> rfl
      · rw [DomainTables.view_movementSum, DomainTables.view_movementSum, hview]
        split
        · exact ProductView.booked_rolled cutoff now
        · rfl
      · rw [hview]
        split <;> rfl
    obtain ⟨m, again, hagain⟩ := DomainTables.rebuildStockSummaryFor_of_rebuildable
      (List.nodup_dedup _) hkeyed'.tagged hable
    obtain ⟨hin', hout', _⟩ := DomainTables.rebuildStockSummary_ok hkeyed'.tagged hagain
    refine ⟨m, again, hagain, ?_⟩
    intro item location
    rw [DomainTables.view_find?, DomainTables.view_find?]
    by_cases hitem : item ∈ d.rebuildScope
    · rw [(hin' item ((hscope item).mpr hitem)).2, (hin item hitem).2, ProductView.find?_rebuilt,
        ProductView.find?_rebuilt]
      simp only [(hcells item location).1, (hcells item location).2]
    · have hsame : d'.view item = d.view item := by
        rw [hview, if_neg]
        intro hmem
        exact hitem (DomainTables.mem_rebuildScope.mpr (Or.inl (hmoved item hmem)))
      rw [hout' item (fun hmem => hitem ((hscope item).mp hmem)), hout item hitem, hsame]

/-- Every call of the archive, also one that a failing group ends: the sums by product and
location stay exactly where what is archived of each product comes to nothing away from the
default location, and a rebuild makes the rows it would have made before exactly where each
rollup stands for the rows it is made of. -/
theorem archive_keeps_iff {κ : Type} (cutoff now : String) (order : List String) (maxGroups : Nat)
    (db : ArchiveDb κ) (hkeyed : Keyed db.live) :
    ((∀ item location,
        (db.archiveStockMovements cutoff now order maxGroups).1.live.movementTotal item location =
          db.live.movementTotal item location) ↔
      ∀ item ∈ db.archivedItems cutoff order maxGroups,
        (db.live.view item).ArchivesEven cutoff) ∧
    ∀ (w : StockBindings) (time later : String) (n : Nat) (rebuilt : DomainTables κ),
      db.live.rebuildStockSummary w time = .ok (n, rebuilt) →
        (RebuildsTo w later (db.archiveStockMovements cutoff now order maxGroups).1.live rebuilt ↔
          ∀ item ∈ db.archivedItems cutoff order maxGroups,
            (db.live.view item).RollsUp cutoff item) := by
  have hn : (db.archivedItems cutoff order maxGroups).Nodup :=
    ((List.takeWhile_sublist _).trans (List.take_sublist _ _)).nodup (List.nodup_dedup _)
  have hview := view_rolledUp cutoff now hn db.live
  rw [ArchiveDb.archiveStockMovements_live hkeyed]
  refine ⟨?_, ?_⟩
  · simp only [DomainTables.view_movementTotal, hview]
    constructor
    · intro h item hitem
      apply (ProductView.rolled_kept_iff cutoff now).mp
      intro location
      simpa only [hitem, if_true] using h item location
    · intro h item location
      split
      · rename_i hitem
        exact (ProductView.rolled_kept_iff cutoff now).mpr (h item hitem) location
      · rfl
  · intro w time later n rebuilt hrebuilt
    refine rebuildsTo_iff hkeyed (ArchiveDb.keyed_rolledUp hkeyed _) ⟨_, _, _, rfl⟩ ?_ hview hrebuilt
    intro item hitem
    have hmem := (List.take_sublist _ _).subset ((List.takeWhile_sublist _).subset hitem)
    have hsome := (List.mem_filter.mp (List.mem_dedup.mp hmem)).2
    rw [Bool.not_eq_true', List.isEmpty_eq_false_iff] at hsome
    obtain ⟨m, hm⟩ := List.exists_mem_of_ne_nil _ hsome
    obtain ⟨hm, hown⟩ := List.mem_filter.mp hm
    exact List.any_eq_true.mpr ⟨m, hm, (Bool.and_eq_true_iff.mp hown).1⟩

def receivedOn (location createdAt : String) (delta : Int) : StockMovement :=
  ⟨none, "prod-1", location, delta, some "receive", none, none, "", createdAt⟩

def shelfLedger (ledger : List StockMovement) : ArchiveDb Unit :=
  ⟨{ shelfTables with stockMovements := ledger }, []⟩

theorem keyed_minted {ledger : List StockMovement} (h : ∀ m ∈ ledger, m.id = none) :
    Keyed (shelfLedger ledger).live := by
  refine ⟨?_, ?_⟩
  · intro id
    rw [show (shelfLedger ledger).live.stockMovements.filter (fun m => m.id = some id) = [] from
      List.filter_eq_nil_iff.mpr (fun m hm => by simp [h m hm])]
    exact Nat.zero_le _
  · intro m hm item hid
    rw [h m hm] at hid
    cases hid

def homeLedger : List StockMovement :=
  [receivedOn canonicalDefaultLocation "2026-01-01T00:00:00.000Z" 10,
    receivedOn canonicalDefaultLocation "2026-06-01T00:00:00.000Z" 3]

/-- A product that has only ever been at the default location. -/
theorem home_ledger_kept :
    (∀ item location, ((shelfLedger homeLedger).archiveStockMovements "2026-03-01T00:00:00Z"
        "2026-06-02T00:00:00.000Z" ["prod-1"] 50).1.live.movementTotal item location =
      (shelfLedger homeLedger).live.movementTotal item location) ∧
    ∃ n rebuilt, (shelfLedger homeLedger).live.rebuildStockSummary shelfBindings
        "2026-06-01T12:00:00.000Z" = .ok (n, rebuilt) ∧
      RebuildsTo shelfBindings "2026-06-03T00:00:00.000Z"
        ((shelfLedger homeLedger).archiveStockMovements "2026-03-01T00:00:00Z"
          "2026-06-02T00:00:00.000Z" ["prod-1"] 50).1.live rebuilt := by
  have hkeyed : Keyed (shelfLedger homeLedger).live := keyed_minted (by decide)
  have hkept := archive_keeps_iff "2026-03-01T00:00:00Z" "2026-06-02T00:00:00.000Z" ["prod-1"] 50
    (shelfLedger homeLedger) hkeyed
  have hitems : (shelfLedger homeLedger).archivedItems "2026-03-01T00:00:00Z" ["prod-1"] 50 =
      ["prod-1"] := by decide +kernel
  have hgap : ((shelfLedger homeLedger).live.view "prod-1").gap = 0 := by decide +kernel
  have heven : ((shelfLedger homeLedger).live.view "prod-1").ArchivesEven "2026-03-01T00:00:00Z" := by
    intro location hne
    apply ProductView.bookedAt_of_not_mem
    have hcells : ProductView.cells (((shelfLedger homeLedger).live.view "prod-1").ledger.filter
        (StockMovement.archivable "2026-03-01T00:00:00Z")) = [canonicalDefaultLocation] := by
      decide +kernel
    simpa [hcells] using hne
  rw [hitems] at hkept
  have hok : ((shelfLedger homeLedger).live.rebuildStockSummary shelfBindings
      "2026-06-01T12:00:00.000Z").isOk = true := by decide +kernel
  obtain ⟨⟨n, rebuilt⟩, hrebuilt⟩ := (Except.isOk_iff _).mp hok
  refine ⟨hkept.1.mpr (by simpa using heven), n, rebuilt, hrebuilt, ?_⟩
  refine (hkept.2 _ _ _ n rebuilt hrebuilt).mpr ?_
  rw [List.forall_mem_singleton]
  refine ⟨heven, ?_, Or.inl (by decide +kernel), by omega⟩
  have hcells : ProductView.cells ((shelfLedger homeLedger).live.view "prod-1").ledger =
      [canonicalDefaultLocation] := by decide +kernel
  intro location hmem hne
  rw [hcells, List.mem_singleton] at hmem
  exact absurd hmem hne

def twoShelves : List StockMovement :=
  [receivedOn canonicalDefaultLocation "2026-01-01T00:00:00.000Z" 10,
    receivedOn "loc-B" "2026-01-01T00:00:00.000Z" 5]

/-- The second location's five pieces are the default location's after the rollup. -/
theorem two_shelves_collapse :
    (shelfLedger twoShelves).live.movementTotal "prod-1" "loc-B" = 5 ∧
    ((shelfLedger twoShelves).archiveStockMovements "2026-03-01T00:00:00Z"
      "2026-06-02T00:00:00.000Z" ["prod-1"] 50).1.live.movementTotal "prod-1" "loc-B" = 0 ∧
    ((shelfLedger twoShelves).live.rebuildStockSummary shelfBindings
        "2026-06-03T00:00:00.000Z").toOption.map
      (fun r => r.2.stockSummary.rows.map (fun row => (row.locationId, row.qty))) =
      some [(canonicalDefaultLocation, 10), ("loc-B", 5)] ∧
    (((shelfLedger twoShelves).archiveStockMovements "2026-03-01T00:00:00Z"
      "2026-06-02T00:00:00.000Z" ["prod-1"] 50).1.live.rebuildStockSummary shelfBindings
        "2026-06-03T00:00:00.000Z").toOption.map
      (fun r => r.2.stockSummary.rows.map (fun row => (row.locationId, row.qty))) =
      some [(canonicalDefaultLocation, 15)] := by
  decide +kernel

end OzPos
