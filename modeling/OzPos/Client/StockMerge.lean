import OzPos.Client.StockEffect
import OzPos.Client.Conflict
import OzPos.Client.ExactlyOnce

namespace OzPos

theorem value_getD_value (payload : Payload) :
    (payload.value?.getD .null).value = payload.value?.getD .null := by
  cases payload with
  | text raw => rfl
  | json doc => exact doc.value_value

theorem value_merged (l r : Payload) : (mergedPayload l r).value = mergedPayload l r := by
  have hlocal : "local" < "merge_type" := by decide
  have hremote : "merge_type" < "remote" := by decide
  have hsorted : Json.SortedMembers ([] ++ [("local", l.value?.getD .null),
      ("merge_type", .str "crdt_delta"), ("remote", r.value?.getD .null)]) := by
    refine List.pairwise_cons.mpr ⟨?_, List.pairwise_cons.mpr ⟨?_, List.pairwise_singleton _ _⟩⟩
    · intro m hm
      simp only [List.mem_cons, List.not_mem_nil, or_false] at hm
      rcases hm with rfl | rfl
      · exact hlocal
      · exact hlocal.trans hremote
    · intro m hm
      rw [List.mem_singleton.mp hm]
      exact hremote
  rw [mergedPayload, Json.value, Json.memberValues_of_sorted _ hsorted, List.nil_append]
  intro m hm
  simp only [List.mem_cons, List.not_mem_nil, or_false] at hm
  rcases hm with rfl | rfl | rfl
  · exact value_getD_value l
  · rfl
  · exact value_getD_value r

theorem envelopeSides_merged (l r : Payload) :
    envelopeSides (mergedPayload l r) = [l.value?.getD .null, r.value?.getD .null] := by
  have hmerge : (mergedPayload l r).strAt? "merge_type" = some "crdt_delta" := by
    simp [mergedPayload, Json.strAt?, Json.get?, Json.lookup, Json.asStr?]
  have hlocal : (mergedPayload l r).get? "local" = some (l.value?.getD .null) := by
    simp [mergedPayload, Json.get?, Json.lookup]
  have hremote : (mergedPayload l r).get? "remote" = some (r.value?.getD .null) := by
    simp [mergedPayload, Json.get?, Json.lookup]
  rw [envelopeSides, if_pos hmerge, hlocal, hremote]
  rfl

namespace DomainTables

variable {κ : Type}

variable (d : DomainTables κ)

/-- What the second of two moves asks, told from the tables before the first. -/
def FitsAfter (first second : StockMove) : Prop :=
  if second.item = first.item then
    second.location ∈ d.locations ∧
      InStock ((if second.location = first.location then
          d.legacyAwareLocationQty first.item first.location + first.delta
        else d.quantityAt first.item second.location) + second.delta) ∧
      InStock (d.onHand first.item + first.delta + second.delta)
  else Fits d second

theorem fits_moved_iff {d d₁ : DomainTables κ} {first second : StockMove}
    (h : Moved d d₁ first) : Fits d₁ second ↔ FitsAfter d first second := by
  have hlocations := h.frame.locations
  have hrows := h.rows second.item
  have hquantity := h.quantity second.item second.location
  have honHand := h.onHand second.item
  have hinventory := h.inventory second.item
  unfold FitsAfter
  by_cases hitem : second.item = first.item
  · rw [if_pos hitem]
    rw [hitem] at hrows hquantity honHand hinventory
    have hstored : d₁.hasLocationRows first.item = true := by simpa using hrows
    rw [if_pos rfl] at honHand hinventory
    have hlevel : d₁.legacyAwareLocationQty first.item second.location =
        if second.location = first.location then
          d.legacyAwareLocationQty first.item first.location + first.delta
        else d.quantityAt first.item second.location := by
      rw [locationQty_of_rows hstored, hquantity]
      simp
    constructor
    · intro hfits
      have htotal := hfits.total
      rw [hitem, hinventory, honHand] at htotal
      refine ⟨hlocations ▸ hfits.location, ?_, htotal.resolve_left (by simp)⟩
      have hfit := hfits.level
      rwa [hitem, hlevel] at hfit
    · intro hafter
      obtain ⟨hplace, hlow, hhigh⟩ := hafter
      refine ⟨hlocations ▸ hplace, ?_, .inr ?_⟩
      · rwa [hitem, hlevel]
      · rwa [hitem, honHand]
  · rw [if_neg hitem]
    rw [if_neg (fun hboth => hitem hboth.1)] at hquantity
    rw [if_neg hitem, Int.add_zero] at honHand
    rw [if_neg hitem] at hinventory
    have hsame : d₁.hasLocationRows second.item = d.hasLocationRows second.item := by
      simpa [hitem] using hrows
    have hlevel : d₁.legacyAwareLocationQty second.item second.location =
        d.legacyAwareLocationQty second.item second.location := by
      simp only [legacyAwareLocationQty, hsame, hquantity, hinventory]
    constructor
    · intro hfits
      refine ⟨hlocations ▸ hfits.location, hlevel ▸ hfits.level, ?_⟩
      rw [← hinventory, ← honHand]
      exact hfits.total
    · intro hfits
      refine ⟨hlocations ▸ hfits.location, hlevel ▸ hfits.level, ?_⟩
      rw [hinventory, honHand]
      exact hfits.total

def sideMoves (doc : Json) : List StockMove :=
  ((envelopeSides doc).mapM d.sideMove).getD []

/-- Each payload reads as one adjustment, the second fits after the first, and the two are
worth what the payloads are worth on their own. -/
def MergeComposes (l r : Json) : Prop :=
  ∃ first second, d.sideMove l = some first ∧ d.sideMove r = some second ∧
    Fits d first ∧ FitsAfter d first second ∧
    ∀ item, deltaOn item [first, second] = deltaOn item (d.sideMoves l) + deltaOn item (d.sideMoves r)

theorem sideMoves_onHand {now : String} {doc : Json} {d d' : DomainTables κ}
    (h : d.applyAdjustments now (envelopeSides doc) = .ok d') (item : String) :
    d'.onHand item - d.onHand item = deltaOn item (d.sideMoves doc) := by
  obtain ⟨moves, hmoves, hbatch⟩ := applyAdjustments_batch h
  rw [sideMoves, hmoves, hbatch.onHand, Option.getD_some]
  omega

theorem applyAdjustments_pair_iff (now : String) (l r : Json) (d : DomainTables κ) :
    (∃ d', d.applyAdjustments now [l, r] = .ok d') ↔
      ∃ first second, d.sideMove l = some first ∧ d.sideMove r = some second ∧
        Fits d first ∧ FitsAfter d first second := by
  constructor
  · intro h
    obtain ⟨d', h⟩ := h
    obtain ⟨first, d₁, hfirst, hfits, hmoved, hrest⟩ := applyAdjustments_cons h
    obtain ⟨second, _, hsecond, hfits', _, _⟩ := applyAdjustments_cons hrest
    rw [hmoved.frame.sideMove] at hsecond
    exact ⟨first, second, hfirst, hsecond, hfits, (fits_moved_iff hmoved).mp hfits'⟩
  · intro h
    obtain ⟨first, second, hfirst, hsecond, hfits, hafter⟩ := h
    obtain ⟨d₁, hmoved, heq⟩ := applyAdjustments_cons_of_fits now hfirst hfits
    rw [← hmoved.frame.sideMove] at hsecond
    obtain ⟨d₂, _, heq'⟩ :=
      applyAdjustments_cons_of_fits now hsecond ((fits_moved_iff hmoved).mpr hafter)
    exact ⟨d₂, by rw [heq, heq']; rfl⟩

theorem sideMoves_pair {d : DomainTables κ} {l r : Json} {first second : StockMove}
    (hfirst : d.sideMove l = some first) (hsecond : d.sideMove r = some second) :
    [l, r].mapM d.sideMove = some [first, second] := by
  simp [hfirst, hsecond]

theorem merge_applies_iff (now now₁ now₂ : String) {l r : Json} {d dl dr : DomainTables κ}
    (hl : d.applyAdjustments now₁ (envelopeSides l) = .ok dl)
    (hr : d.applyAdjustments now₂ (envelopeSides r) = .ok dr) :
    (∃ dm, d.applyAdjustments now [l, r] = .ok dm ∧ ∀ item, dm.onHand item - d.onHand item =
        (dl.onHand item - d.onHand item) + (dr.onHand item - d.onHand item)) ↔
      MergeComposes d l r := by
  constructor
  · intro h
    obtain ⟨dm, hm, hsum⟩ := h
    obtain ⟨first, second, hfirst, hsecond, hfits, hafter⟩ :=
      (applyAdjustments_pair_iff now l r d).mp ⟨dm, hm⟩
    refine ⟨first, second, hfirst, hsecond, hfits, hafter, ?_⟩
    intro item
    obtain ⟨moves, hmoves, hbatch⟩ := applyAdjustments_batch hm
    rw [sideMoves_pair hfirst hsecond, Option.some.injEq] at hmoves
    rw [← sideMoves_onHand hl, ← sideMoves_onHand hr, ← hsum, hbatch.onHand, hmoves]
    omega
  · intro h
    obtain ⟨first, second, hfirst, hsecond, hfits, hafter, hsum⟩ := h
    obtain ⟨dm, hm⟩ := (applyAdjustments_pair_iff now l r d).mpr
      ⟨first, second, hfirst, hsecond, hfits, hafter⟩
    refine ⟨dm, hm, ?_⟩
    intro item
    obtain ⟨moves, hmoves, hbatch⟩ := applyAdjustments_batch hm
    rw [sideMoves_pair hfirst hsecond, Option.some.injEq] at hmoves
    rw [sideMoves_onHand hl, sideMoves_onHand hr, ← hsum, hbatch.onHand, hmoves]
    omega

end DomainTables

theorem applyRemoteInTx_stockAdjusted {κ : Type} (crm : Crm κ) (draw : ApplyDraw)
    {item : OfflineQueueItem} (haction : item.action = "stock.adjusted") (d : DomainTables κ) :
    applyRemoteInTx crm draw item d =
      (parsedValue "invalid stock payload" item.payload).bind
        (fun doc => d.applyAdjustments draw.now (envelopeSides doc)) := by
  have harm : remoteAction item.action = .stockAdjusted := by
    rw [haction]
    decide
  rw [applyRemoteInTx, harm]

theorem stockAdjusted_ok {κ : Type} {crm : Crm κ} {draw : ApplyDraw} {item : OfflineQueueItem}
    (haction : item.action = "stock.adjusted") {d d' : DomainTables κ}
    (h : applyRemoteInTx crm draw item d = .ok d') :
    d.applyAdjustments draw.now (envelopeSides (item.payload.value?.getD .null)) = .ok d' := by
  rw [applyRemoteInTx_stockAdjusted crm draw haction] at h
  unfold parsedValue at h
  cases hvalue : item.payload.value? with
  | none =>
    rw [hvalue] at h
    cases h
  | some doc =>
    rw [hvalue] at h
    exact h

theorem winner_action (draw : Draw) (l r : OfflineQueueItem) :
    (resolveStockCrdt draw l r).winner.action = l.action := rfl

theorem winner_applies {κ : Type} (crm : Crm κ) (draw : ApplyDraw) (merge : Draw)
    {l : OfflineQueueItem} (r : OfflineQueueItem) (haction : l.action = "stock.adjusted")
    (d : DomainTables κ) :
    applyRemoteInTx crm draw (resolveStockCrdt merge l r).winner d =
      d.applyAdjustments draw.now
        [l.payload.value?.getD .null, r.payload.value?.getD .null] := by
  have hvalue : (resolveStockCrdt merge l r).winner.payload.value? =
      some (mergedPayload l.payload r.payload) :=
    congrArg some (value_merged _ _)
  rw [applyRemoteInTx_stockAdjusted crm draw ((winner_action merge l r).trans haction)]
  unfold parsedValue
  rw [hvalue, ← envelopeSides_merged]
  rfl

/-- The winner of a stock merge is accepted, and worth the two payloads, exactly where they
compose. -/
theorem merged_winner_composes_iff {κ : Type} (crm : Crm κ) (draw drawl drawr : ApplyDraw)
    (merge : Draw) (l r : OfflineQueueItem) (d dl dr : DomainTables κ)
    (hactionl : l.action = "stock.adjusted") (hactionr : r.action = "stock.adjusted")
    (hl : applyRemoteInTx crm drawl l d = .ok dl) (hr : applyRemoteInTx crm drawr r d = .ok dr) :
    (∃ dm, applyRemoteInTx crm draw (resolveStockCrdt merge l r).winner d = .ok dm ∧
        ∀ item, dm.onHand item - d.onHand item =
          (dl.onHand item - d.onHand item) + (dr.onHand item - d.onHand item)) ↔
      DomainTables.MergeComposes d (l.payload.value?.getD .null) (r.payload.value?.getD .null) := by
  rw [winner_applies crm draw merge r hactionl]
  exact DomainTables.merge_applies_iff _ _ _ (stockAdjusted_ok hactionl hl)
    (stockAdjusted_ok hactionr hr)

def sampleProduct : Product :=
  ⟨uuidOf "5", "default", "SKU-1", "Kopi", 1500, "IDR", none, none, "retail",
    "2026-01-01T00:00:00.000Z"⟩

def stockedTables : DomainTables Unit :=
  { DomainTables.empty () with
    products := Table.empty.insertNew sampleProduct
    inventory := Table.empty.insertNew
      ⟨uuidOf "5", canonicalDefaultLocation, 10, "2026-01-01T00:00:00.000Z"⟩ }

def stockAdjustment (id sku : String) (delta : Int) : OfflineQueueItem :=
  queued id "stock.adjusted" (.obj [("delta", .int delta), ("sku", .str sku)])
    "2026-01-01T00:00:00.000Z" (some "term-B")

def sampleMerge : Draw := ⟨"2026-01-02T00:00:00.000Z", uuidOf "8", uuidOf "9"⟩

def stockedAfter (item : OfflineQueueItem) : DomainTables Unit :=
  (applyRemoteInTx plainCrm sampleApply item stockedTables).toOption.getD stockedTables

theorem plain_merge_composes_iff :
    (∃ dm, applyRemoteInTx plainCrm sampleApply
        (resolveStockCrdt sampleMerge (stockAdjustment (uuidOf "1") "SKU-1" (-3))
          (stockAdjustment (uuidOf "2") "SKU-1" (-4))).winner stockedTables = .ok dm ∧
        ∀ item, dm.onHand item - stockedTables.onHand item =
          ((stockedAfter (stockAdjustment (uuidOf "1") "SKU-1" (-3))).onHand item -
              stockedTables.onHand item) +
            ((stockedAfter (stockAdjustment (uuidOf "2") "SKU-1" (-4))).onHand item -
              stockedTables.onHand item)) ↔
      DomainTables.MergeComposes stockedTables
        ((stockAdjustment (uuidOf "1") "SKU-1" (-3)).payload.value?.getD .null)
        ((stockAdjustment (uuidOf "2") "SKU-1" (-4)).payload.value?.getD .null) :=
  merged_winner_composes_iff plainCrm sampleApply sampleApply sampleApply sampleMerge _ _ _
    (stockedAfter (stockAdjustment (uuidOf "1") "SKU-1" (-3)))
    (stockedAfter (stockAdjustment (uuidOf "2") "SKU-1" (-4))) rfl rfl rfl rfl

def mergedOnce : OfflineQueueItem :=
  (resolveStockCrdt sampleMerge (stockAdjustment (uuidOf "1") "SKU-1" (-3))
    (stockAdjustment (uuidOf "2") "SKU-1" (-4))).winner

theorem merged_merge_rejected :
    (∃ dl, applyRemoteInTx plainCrm sampleApply mergedOnce stockedTables = .ok dl) ∧
      (∃ dr, applyRemoteInTx plainCrm sampleApply (stockAdjustment (uuidOf "3") "SKU-1" (-1))
        stockedTables = .ok dr) ∧
      ¬ ∃ dm, applyRemoteInTx plainCrm sampleApply
        (resolveStockCrdt sampleMerge mergedOnce
          (stockAdjustment (uuidOf "3") "SKU-1" (-1))).winner stockedTables = .ok dm := by
  refine ⟨⟨_, rfl⟩, ⟨_, rfl⟩, ?_⟩
  intro h
  obtain ⟨dm, hm⟩ := h
  cases hm

end OzPos
