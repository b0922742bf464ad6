import OzPos.Commerce.RefundBounds

namespace OzPos

variable {κ : Type}

namespace DomainTables

/-- What writes of one product at one location add up to. -/
structure Landed (d d' : DomainTables κ) (m : StockMove) : Prop where
  frame : StockOnly d d'
  rows : ∀ item, d'.hasLocationRows item = (d.hasLocationRows item || decide (item = m.item))
  quantity : ∀ item location, d'.quantityAt item location =
    if item = m.item ∧ location = m.location then
      d.legacyAwareLocationQty m.item m.location + m.delta
    else d.quantityAt item location
  onHand : ∀ item, d'.onHand item = d.onHand item + if item = m.item then m.delta else 0
  counted : ∀ item, (d'.inventoryQty item).isSome =
    ((d.inventoryQty item).isSome || decide (item = m.item))

variable {d d' : DomainTables κ}

theorem Moved.landed {m : StockMove} (h : Moved d d' m) : Landed d d' m := by
  refine ⟨h.frame, h.rows, h.quantity, h.onHand, ?_⟩
  intro item
  rw [h.inventory]
  by_cases hitem : item = m.item <;> simp [hitem]

theorem Landed.level {m : StockMove} (h : Landed d d' m) (item : String)
    (location : String) : d'.legacyAwareLocationQty item location =
      if item = m.item then
        if location = m.location then d.legacyAwareLocationQty m.item m.location + m.delta
        else d.quantityAt item location
      else d.legacyAwareLocationQty item location := by
  have hrows := h.rows item
  by_cases hitem : item = m.item
  · subst hitem
    rw [locationQty_of_rows (by rw [hrows]; simp), h.quantity, if_pos rfl]
    by_cases hlocation : location = m.location <;> simp [hlocation]
  · rw [decide_eq_false hitem, Bool.or_false] at hrows
    rw [if_neg hitem]
    cases hhad : d.hasLocationRows item with
    | true =>
      rw [locationQty_of_rows hhad, locationQty_of_rows (hrows.trans hhad), h.quantity,
        if_neg (fun hand => hitem hand.1)]
    | false =>
      rw [locationQty_of_no_rows hhad, locationQty_of_no_rows (hrows.trans hhad), h.onHand,
        if_neg hitem, Int.add_zero]

variable {location item : String}

theorem Landed.merge {d₁ d₂ : DomainTables κ} {a b : Int} (h : Landed d d₁ ⟨item, location, a⟩)
    (h' : Landed d₁ d₂ ⟨item, location, b⟩) : Landed d d₂ ⟨item, location, a + b⟩ := by
  refine ⟨h.frame.trans h'.frame, ?_, ?_, ?_, ?_⟩
  · intro other
    rw [h'.rows, h.rows, Bool.or_assoc, Bool.or_self]
  · intro other place
    rw [h'.quantity, h.level, h.quantity]
    by_cases hcell : other = item ∧ place = location
    · simp [hcell]
      omega
    · simp [hcell]
  · intro other
    rw [h'.onHand, h.onHand]
    by_cases hother : other = item
    · simp [hother]
      omega
    · simp [hother]
  · intro other
    rw [h'.counted, h.counted, Bool.or_assoc, Bool.or_self]

variable {sku : String}

theorem Credited.landed {credits : List Credit}
    (h : Credited d credits d') (hsku : d.productIdBySku sku = some item)
    (hcell : ∀ c ∈ credits, c.sku = sku ∧ c.location = location) (hsome : credits ≠ []) :
    Fits d ⟨item, location, (credits.map Credit.qty).sum⟩ ∧
      Landed d d' ⟨item, location, (credits.map Credit.qty).sum⟩ := by
  induction h with
  | nil d => exact absurd rfl hsome
  | @cons d d₁ d' c rest other hother hfits hmoved hrest ih =>
    obtain ⟨⟨rfl, rfl⟩, hcells⟩ := List.forall_mem_cons.mp hcell
    obtain rfl := Option.some.inj (hother.symm.trans hsku)
    have hlanded : Landed d d₁ ⟨other, c.location, c.qty⟩ := hmoved.landed
    rw [List.map_cons, List.sum_cons]
    cases rest with
    | nil =>
      cases hrest
      simp only [List.map_nil, List.sum_nil, Int.add_zero]
      exact ⟨hfits, hlanded⟩
    | cons c' rest =>
      obtain ⟨_, _, _, rfl⟩ := hmoved.frame
      obtain ⟨hfits', hlanded'⟩ := ih hsku hcells (List.cons_ne_nil _ _)
      refine ⟨⟨hfits.location, ?_, ?_⟩, hlanded.merge hlanded'⟩
      · have hlevel := hfits'.level
        rw [hlanded.level, if_pos rfl, if_pos rfl, Int.add_assoc] at hlevel
        exact hlevel
      · right
        rcases hfits'.total with hnone | htotal
        · have hcounted := hlanded.counted other
          rw [hnone] at hcounted
          simp at hcounted
        · rw [hlanded.onHand, if_pos rfl, Int.add_assoc] at htotal
          exact htotal

/-- One terminal's stock of a product against another's, under the id each minted. -/
structure ItemAlike (o r : DomainTables κ) (a b : String) : Prop where
  rows : o.hasLocationRows a = r.hasLocationRows b
  level : ∀ location, o.legacyAwareLocationQty a location = r.legacyAwareLocationQty b location
  onHand : o.onHand a = r.onHand b
  counted : (o.inventoryQty a).isSome = (r.inventoryQty b).isSome

variable {o r : DomainTables κ} {a b : String}

theorem ItemAlike.quantity (h : ItemAlike o r a b)
    (location : String) : o.quantityAt a location = r.quantityAt b location := by
  cases hrows : o.hasLocationRows a with
  | true =>
    rw [← locationQty_of_rows hrows, ← locationQty_of_rows (h.rows.symm.trans hrows)]
    exact h.level location
  | false =>
    rw [quantityAt_of_no_rows hrows, quantityAt_of_no_rows (h.rows.symm.trans hrows)]

variable {delta : Int}

theorem ItemAlike.fits (h : ItemAlike o r a b) (hlocation : location ∈ r.locations)
    (hfits : Fits o ⟨a, location, delta⟩) : Fits r ⟨b, location, delta⟩ := by
  refine ⟨hlocation, ?_, ?_⟩
  · rw [← h.level]
    exact hfits.level
  · rcases hfits.total with hnone | htotal
    · left
      rw [← Option.isNone_iff_eq_none, ← Option.not_isSome, ← h.counted, hnone]
      rfl
    · right
      rw [← h.onHand]
      exact htotal

variable {o' r' : DomainTables κ}

theorem ItemAlike.landed {i j : String}
    (h : ItemAlike o r a b) (hsame : a = i ↔ b = j) (ho : Landed o o' ⟨i, location, delta⟩)
    (hr : Landed r r' ⟨j, location, delta⟩) : ItemAlike o' r' a b := by
  refine ⟨?_, ?_, ?_, ?_⟩
  · rw [ho.rows, hr.rows, h.rows, decide_eq_decide.mpr hsame]
  · intro place
    rw [ho.level, hr.level]
    by_cases ha : a = i
    · have hb := hsame.mp ha
      subst ha hb
      rw [if_pos rfl, if_pos rfl, h.level, h.quantity]
    · rw [if_neg ha, if_neg (fun hb => ha (hsame.mpr hb)), h.level]
  · rw [ho.onHand, hr.onHand, h.onHand]
    simp only [hsame]
  · rw [ho.counted, hr.counted, h.counted, decide_eq_decide.mpr hsame]

/-- The same catalogue, and under each sku the same stock at every location and in total. -/
structure SameStock (o r : DomainTables κ) : Prop where
  catalogue : ∀ sku, (o.productIdBySku sku).isSome = (r.productIdBySku sku).isSome
  stock : ∀ sku a b, o.productIdBySku sku = some a → r.productIdBySku sku = some b →
    ItemAlike o r a b

theorem SameStock.refl (d : DomainTables κ) : SameStock d d := by
  refine ⟨fun _ => rfl, ?_⟩
  intro sku a b ha hb
  obtain rfl := Option.some.inj (ha.symm.trans hb)
  exact ⟨rfl, fun _ => rfl, rfl, rfl⟩

theorem SameStock.product (h : SameStock o r) (ha : o.productIdBySku sku = some a) :
    ∃ b, r.productIdBySku sku = some b ∧ ItemAlike o r a b := by
  have hsome := h.catalogue sku
  rw [ha, Option.isSome_some] at hsome
  obtain ⟨b, hb⟩ := Option.isSome_iff_exists.mp hsome.symm
  exact ⟨b, hb, h.stock sku a b ha hb⟩

theorem productOfSku (h : (d.productIdBySku sku).isSome) : ∃ p ∈ d.products.rows, p.sku = sku := by
  obtain ⟨item, hitem⟩ := Option.isSome_iff_exists.mp h
  obtain ⟨p, hp, _⟩ := Option.map_eq_some_iff.mp hitem
  exact ⟨p, List.mem_of_find?_eq_some hp, by simpa using List.find?_some hp⟩

theorem productIdBySku_inj {s t : String}
    (hs : d.productIdBySku s = some item) (ht : d.productIdBySku t = some item) : s = t := by
  obtain ⟨p, hp, hpid⟩ := Option.map_eq_some_iff.mp hs
  obtain ⟨q, hq, hqid⟩ := Option.map_eq_some_iff.mp ht
  have hpmem := (Table.mem_rows_iff _ _).mp (List.mem_of_find?_eq_some hp)
  have hqmem := (Table.mem_rows_iff _ _).mp (List.mem_of_find?_eq_some hq)
  rw [hpid, ← hqid, hqmem] at hpmem
  have hpsku : p.sku = s := by simpa using List.find?_some hp
  have hqsku : q.sku = t := by simpa using List.find?_some hq
  rw [← hpsku, ← hqsku, Option.some.inj hpmem]

theorem SameStock.landed {i j : String} (h : SameStock o r) (hi : o.productIdBySku sku = some i)
    (hj : r.productIdBySku sku = some j) (ho : Landed o o' ⟨i, location, delta⟩)
    (hr : Landed r r' ⟨j, location, delta⟩) : SameStock o' r' := by
  have hosku := ho.frame.productIdBySku
  have hrsku := hr.frame.productIdBySku
  refine ⟨?_, ?_⟩
  · intro other
    rw [hosku, hrsku]
    exact h.catalogue other
  · intro other a b ha hb
    rw [hosku] at ha
    rw [hrsku] at hb
    refine (h.stock other a b ha hb).landed ?_ ho hr
    constructor
    · intro hai
      subst hai
      obtain rfl := productIdBySku_inj ha hi
      exact Option.some.inj (hb.symm.trans hj)
    · intro hbj
      subst hbj
      obtain rfl := productIdBySku_inj hb hj
      exact Option.some.inj (ha.symm.trans hi)

theorem SameStock.of_tables (h : SameStock o r) (hop : o'.products = o.products)
    (hoi : o'.inventory = o.inventory) (hos : o'.stockSummary = o.stockSummary)
    (hrp : r'.products = r.products) (hri : r'.inventory = r.inventory)
    (hrs : r'.stockSummary = r.stockSummary) : SameStock o' r' := by
  cases o'
  cases r'
  subst hop hoi hos hrp hri hrs
  refine ⟨h.catalogue, ?_⟩
  intro sku a b ha hb
  obtain ⟨hrows, hlevel, honHand, hcounted⟩ := h.stock sku a b ha hb
  exact ⟨hrows, hlevel, honHand, hcounted⟩

end DomainTables

end OzPos

namespace OzPos

variable {κ : Type}

namespace DomainTables

/-- A deduction as the completion of a sale records it. -/
def RecordedEntry (entry : Json) : Prop :=
  ∃ location qty, entry.strAt? "location_id" = some location ∧ entry.i64At? "qty" = some qty ∧
    0 < qty

/-- Credits of a product that put back a number of units. -/
structure Restores (credits : List Credit) (sku : String) (qty : Int) : Prop where
  sku : ∀ c ∈ credits, c.sku = sku
  units : ∀ c ∈ credits, 0 < c.qty
  total : (credits.map Credit.qty).sum = qty

theorem Restores.nonempty {credits : List Credit} {sku : String} {qty : Int}
    (h : Restores credits sku qty) (hqty : 0 < qty) : credits ≠ [] := by
  intro hnil
  have htotal := h.total
  rw [hnil] at htotal
  simp at htotal
  omega

theorem recordedQty_cons {entry : Json} {qty : Int} (h : entry.i64At? "qty" = some qty)
    (rest : List Json) : recordedQty (entry :: rest) = qty + recordedQty rest := by
  simp [recordedQty, h]

theorem forwardCredits_restores (sku : String) {entries : List Json}
    (h : ∀ entry ∈ entries, RecordedEntry entry) :
    Restores (forwardCredits sku entries) sku (recordedQty entries) := by
  induction entries with
  | nil => exact ⟨by simp [forwardCredits], by simp [forwardCredits], rfl⟩
  | cons entry rest ih =>
    obtain ⟨⟨location, qty, hlocation, hqty, hpos⟩, hrest⟩ := List.forall_mem_cons.mp h
    obtain ⟨hsku, hunits, htotal⟩ := ih hrest
    have hcredit : entryCredit sku entry = some ⟨sku, location, qty⟩ := by
      simp [entryCredit, hlocation, hqty]
    have hcons : forwardCredits sku (entry :: rest) =
        ⟨sku, location, qty⟩ :: forwardCredits sku rest := by
      rw [forwardCredits, List.filterMap_cons, hcredit]
      rfl
    rw [hcons, recordedQty_cons hqty]
    refine ⟨List.forall_mem_cons.mpr ⟨rfl, hsku⟩, List.forall_mem_cons.mpr ⟨hpos, hunits⟩, ?_⟩
    rw [List.map_cons, List.sum_cons, htotal]

theorem backwardCredits_restores (sku : String) {entries : List Json} {remaining : Int}
    (h : ∀ entry ∈ entries, RecordedEntry entry) (hlow : 0 ≤ remaining)
    (hhigh : remaining ≤ recordedQty entries) :
    Restores (backwardCredits sku remaining entries) sku remaining := by
  induction entries generalizing remaining with
  | nil =>
    have hzero : recordedQty [] = 0 := rfl
    exact ⟨by simp [backwardCredits], by simp [backwardCredits], by
      simp [backwardCredits]
      omega⟩
  | cons entry rest ih =>
    obtain ⟨⟨location, qty, hlocation, hqty, hpos⟩, hrest⟩ := List.forall_mem_cons.mp h
    have hcredit : entryCredit sku entry = some ⟨sku, location, qty⟩ := by
      simp [entryCredit, hlocation, hqty]
    rw [recordedQty_cons hqty] at hhigh
    unfold backwardCredits
    by_cases hdone : remaining ≤ 0
    · rw [if_pos hdone]
      refine ⟨by simp, by simp, ?_⟩
      simp
      omega
    · rw [if_neg hdone, hcredit]
      simp only
      have hnonneg : 0 ≤ recordedQty rest := by
        have hforward := forwardCredits_restores sku hrest
        rw [← hforward.total]
        apply List.sum_nonneg
        intro n hn
        obtain ⟨c, hc, rfl⟩ := List.mem_map.mp hn
        exact (hforward.units c hc).le
      have hlow' : 0 ≤ remaining - min qty remaining := by omega
      have hhigh' : remaining - min qty remaining ≤ recordedQty rest := by omega
      obtain ⟨hsku, hunits, htotal⟩ := ih hrest hlow' hhigh'
      refine ⟨List.forall_mem_cons.mpr ⟨rfl, hsku⟩,
        List.forall_mem_cons.mpr ⟨lt_min hpos (not_le.mp hdone), hunits⟩, ?_⟩
      rw [List.map_cons, List.sum_cons, htotal]
      exact add_sub_cancel _ _

theorem recordedQty_reverse (entries : List Json) :
    recordedQty entries.reverse = recordedQty entries := by
  unfold recordedQty
  rw [List.filterMap_reverse, List.sum_reverse]

end DomainTables

open DomainTables

/-- The deductions of a completed sale stand as its completion recorded them. -/
def DeductionsRecorded (o : SalesDb κ) (saleId : String) : Prop :=
  ∀ column, (o.terms saleId).deductionLocations = some column → ∀ saleLineId sold,
    soldLineForSaleLineInTx o.saleLines saleId saleLineId = some sold →
      recordedSku (recordedLines column) saleLineId = sold.sku ∧
        ∀ entry ∈ recordedDeductions (recordedLines column) saleLineId, RecordedEntry entry

theorem creditsOfLine_restores {draw : RefundDraw} {refund : Refund} {o o' : SalesDb κ}
    {sale : SaleRow} (hr : Refunded draw refund o o' sale)
    (hrecorded : DeductionsRecorded o refund.saleId) {line : RefundLine}
    (hline : line ∈ refund.lines) :
    Restores (creditsOfLine o refund.saleId line) (soldSku o refund.saleId line.saleLineId)
      line.qty := by
  have hqty : 0 < line.qty :=
    (hr.valid line.payload (List.mem_map.mpr ⟨line, hline, rfl⟩)).qty
  obtain ⟨sold, hsold, _, _⟩ := hr.units line hline
  unfold creditsOfLine
  cases hcolumn : (o.terms refund.saleId).deductionLocations with
  | none =>
    refine ⟨?_, ?_, ?_⟩
    · simp
    · simpa using hqty
    · simp
  | some column =>
    obtain ⟨hsku, hentries⟩ := hrecorded column hcolumn line.saleLineId sold hsold
    have hsoldSku : soldSku o refund.saleId line.saleLineId = sold.sku := by
      rw [soldSku, hsold]
      rfl
    have hle := hr.deducted column hcolumn line hline
    simp only [DomainTables.lineCredits, hsku, hsoldSku]
    split
    · rename_i hfull
      have hrestores := forwardCredits_restores sold.sku hentries
      rw [le_antisymm hfull hle] at hrestores
      exact hrestores
    · refine backwardCredits_restores sold.sku ?_ hqty.le ?_
      · intro entry hentry
        exact hentries entry (List.mem_reverse.mp hentry)
      · rw [recordedQty_reverse]
        exact hle

section Payload

theorem asI64?_int {n : Int} (h : FitsI64 n) : Json.asI64? (.int n) = some n := if_pos h

theorem RefundLinePayload.read_json {line : RefundLine} (h : line.Fits) :
    RefundLinePayload.read (refundLineJson line) = some line.payload := by
  obtain ⟨hqty, hunit, hline⟩ := h
  simp [RefundLinePayload.read, refundLineJson, Json.body?, Json.Body.required,
    Json.Body.defaulted, Json.Body.field?, Json.asStr?, asI64?_int hqty, asI64?_int hunit,
    asI64?_int hline, RefundLine.payload]

theorem readLines_json {lines : List RefundLine} (h : ∀ line ∈ lines, line.Fits) :
    (lines.map refundLineJson).mapM RefundLinePayload.read =
      some (lines.map RefundLine.payload) := by
  induction lines with
  | nil => rfl
  | cons line rest ih =>
    obtain ⟨hline, hrest⟩ := List.forall_mem_cons.mp h
    rw [List.map_cons, List.mapM_cons, RefundLinePayload.read_json hline, ih hrest]
    rfl

theorem RefundPayload.read_json (refund : Refund) :
    RefundPayload.read (refundJson refund) = some refund.payload := by
  simp [RefundPayload.read, refundJson, Json.body?, Json.Body.required, Json.Body.defaulted,
    Json.Body.field?, Json.asStr?, Json.list?, asI64?_int refund.total_fits,
    readLines_json refund.lines_fit, Refund.payload]

end Payload

namespace DomainTables

/-- What the pull side puts back of a line that names no location. -/
def replayedCredit (line : RefundLine) : Credit :=
  ⟨line.sku, canonicalDefaultLocation, line.qty⟩

variable {d d' : DomainTables κ}

theorem creditRefundEffect_ok {now : String} {lines : List RefundLine}
    (hqty : ∀ line ∈ lines, 0 < line.qty)
    (h : d.creditRefundEffectWithoutSale now (lines.map RefundLine.payload) = .ok d') :
    Credited d (lines.map replayedCredit) d' := by
  induction lines generalizing d with
  | nil =>
    cases h
    exact .nil _
  | cons line rest ih =>
    obtain ⟨hhere, hothers⟩ := List.forall_mem_cons.mp hqty
    have hmore : ¬ line.payload.qty ≤ 0 := not_le.mpr hhere
    rw [List.map_cons] at h ⊢
    unfold creditRefundEffectWithoutSale at h
    rw [if_neg hmore] at h
    split at h
    · cases h
    · rename_i level d₁ hadjust
      obtain ⟨item, hsku, hfits, hmoved⟩ := adjustStockAtLocation_ok hadjust
      exact .cons hsku hfits hmoved (ih hothers h)

theorem Credited.split {l r : List Credit} (h : Credited d (l ++ r) d') :
    ∃ d₁, Credited d l d₁ ∧ Credited d₁ r d' := by
  induction l generalizing d with
  | nil => exact ⟨d, .nil d, h⟩
  | cons c l ih =>
    cases h with
    | cons hsku hfits hmoved hrest =>
      obtain ⟨d₁, hl, hr⟩ := ih hrest
      exact ⟨d₁, .cons hsku hfits hmoved hl, hr⟩

variable {credits : List Credit}

theorem Credited.known
    (h : Credited d credits d') : ∀ c ∈ credits, (d.productIdBySku c.sku).isSome := by
  induction h with
  | nil d => simp
  | cons hsku _ hmoved _ ih =>
    refine List.forall_mem_cons.mpr ⟨?_, ?_⟩
    · rw [hsku]
      rfl
    · intro c hc
      rw [← hmoved.frame.productIdBySku]
      exact ih c hc

theorem Restores.known {sku : String} {qty : Int} (h : Restores credits sku qty) (hqty : 0 < qty)
    (hcredited : Credited d credits d') : ∃ item, d.productIdBySku sku = some item := by
  obtain ⟨c, hc⟩ := List.exists_mem_of_ne_nil _ (h.nonempty hqty)
  have hknown := hcredited.known c hc
  rw [h.sku c hc] at hknown
  exact Option.isSome_iff_exists.mp hknown

theorem replay_alike (now : String) {credits : RefundLine → List Credit} {lines : List RefundLine}
    {o o' r : DomainTables κ} (hsame : SameStock o r)
    (hdefault : canonicalDefaultLocation ∈ r.locations) (hqty : ∀ line ∈ lines, 0 < line.qty)
    (hrestores : ∀ line ∈ lines, Restores (credits line) line.sku line.qty)
    (hplace : ∀ line ∈ lines, ∀ c ∈ credits line, c.location = canonicalDefaultLocation)
    (h : Credited o (lines.flatMap credits) o') :
    ∃ r', r.creditRefundEffectWithoutSale now (lines.map RefundLine.payload) = .ok r' ∧
      SameStock o' r' := by
  induction lines generalizing o r with
  | nil =>
    cases h
    exact ⟨r, rfl, hsame⟩
  | cons line rest ih =>
    obtain ⟨hhere, hothers⟩ := List.forall_mem_cons.mp hqty
    obtain ⟨hmine, hrests⟩ := List.forall_mem_cons.mp hrestores
    obtain ⟨hat, hats⟩ := List.forall_mem_cons.mp hplace
    rw [List.flatMap_cons] at h
    obtain ⟨o₁, hline, hrest⟩ := h.split
    obtain ⟨a, ha⟩ := hmine.known hhere hline
    obtain ⟨b, hb, halike⟩ := hsame.product ha
    obtain ⟨hfits, hlanded⟩ := hline.landed ha
      (fun c hc => ⟨hmine.sku c hc, hat c hc⟩) (hmine.nonempty hhere)
    rw [hmine.total] at hfits hlanded
    obtain ⟨⟨level, r₁⟩, hadjust⟩ := adjustStockAtLocation_of_fits now (some "refund") hb
      (halike.fits hdefault hfits)
    obtain ⟨b', hb', _, hmoved⟩ := adjustStockAtLocation_ok hadjust
    obtain rfl := Option.some.inj (hb'.symm.trans hb)
    have hsame₁ : SameStock o₁ r₁ := hsame.landed ha hb hlanded hmoved.landed
    obtain ⟨_, _, _, hr₁⟩ := hmoved.frame
    obtain ⟨r', hreplay, hsame'⟩ := ih hsame₁ (by rw [hr₁]; exact hdefault) hothers hrests hats hrest
    refine ⟨r', ?_, hsame'⟩
    have hmore : ¬ line.payload.qty ≤ 0 := not_le.mpr hhere
    rw [List.map_cons]
    unfold creditRefundEffectWithoutSale
    rw [if_neg hmore]
    have hplaced : line.payload.locationId.getD canonicalDefaultLocation =
        canonicalDefaultLocation := rfl
    have hpaid : line.payload.sku = line.sku ∧ line.payload.qty = line.qty := ⟨rfl, rfl⟩
    rw [hplaced, hpaid.1, hpaid.2, hadjust]
    exact hreplay

/-- A product that has no location rows holds no less than nothing. -/
def LegacyHeld (d : DomainTables κ) : Prop :=
  ∀ item, d.hasLocationRows item = false → 0 ≤ d.onHand item

theorem legacyHeld_of_inventory (h : ∀ row ∈ d.inventory.rows, 0 ≤ row.qty) : LegacyHeld d := by
  intro item hrows
  rw [onHand_of_no_rows hrows, inventoryQty]
  cases hfind : d.inventory.find? item with
  | none => exact Int.le_refl 0
  | some row => exact h row ((Table.find?_eq_some_iff _ _ _).mp hfind).1

theorem LegacyHeld.level (h : LegacyHeld d) (item location : String) :
    d.quantityAt item location ≤ d.legacyAwareLocationQty item location := by
  cases hrows : d.hasLocationRows item with
  | true => rw [locationQty_of_rows hrows]
  | false =>
    rw [quantityAt_of_no_rows hrows, locationQty_of_no_rows hrows]
    exact h item hrows

theorem LegacyHeld.moved {m : StockMove} (h : LegacyHeld d)
    (hm : Moved d d' m) : LegacyHeld d' := by
  intro item hrows
  rw [hm.rows, Bool.or_eq_false_iff] at hrows
  rw [hm.onHand, if_neg (of_decide_eq_false hrows.2), Int.add_zero]
  exact h item hrows.1

theorem Credited.raises (h : Credited d credits d') (hheld : LegacyHeld d)
    (hunits : ∀ c ∈ credits, 0 < c.qty) (item location : String) :
    d.quantityAt item location ≤ d'.quantityAt item location ∧
      ∀ c ∈ credits, d.productIdBySku c.sku = some item → c.location = location →
        d.quantityAt item location < d'.quantityAt item location := by
  induction h with
  | nil d => exact ⟨Int.le_refl _, by simp⟩
  | @cons d d₁ d' c rest other hother hfits hmoved hrest ih =>
    obtain ⟨hpos, hposs⟩ := List.forall_mem_cons.mp hunits
    obtain ⟨hle, hlt⟩ := ih (hheld.moved hmoved) hposs
    have hstep : d₁.quantityAt item location = if item = other ∧ location = c.location then
        d.legacyAwareLocationQty other c.location + c.qty else d.quantityAt item location :=
      hmoved.quantity item location
    have hlevel := hheld.level other c.location
    have hfirst : d.quantityAt item location ≤ d₁.quantityAt item location := by
      rw [hstep]
      split
      · rename_i hcell
        rw [hcell.1, hcell.2]
        omega
      · exact Int.le_refl _
    refine ⟨hfirst.trans hle, List.forall_mem_cons.mpr ⟨?_, ?_⟩⟩
    · intro hsku hlocation
      obtain rfl := Option.some.inj (hother.symm.trans hsku)
      refine lt_of_lt_of_le ?_ hle
      rw [hstep, if_pos ⟨rfl, hlocation.symm⟩, ← hlocation]
      omega
    · intro c' hc' hsku hlocation
      rw [← hmoved.frame.productIdBySku] at hsku
      exact lt_of_le_of_lt hfirst (hlt c' hc' hsku hlocation)

theorem Credited.elsewhere {place : String} (h : Credited d credits d')
    (hplace : ∀ c ∈ credits, c.location = place) {location : String} (hother : location ≠ place)
    (item : String) : d'.quantityAt item location = d.quantityAt item location := by
  induction h with
  | nil d => rfl
  | @cons d d₁ d' c rest _ _ _ hmoved _ ih =>
    obtain ⟨hat, hats⟩ := List.forall_mem_cons.mp hplace
    rw [ih hats, hmoved.quantity, if_neg]
    intro hcell
    exact hother (hcell.2.trans hat)

end DomainTables

end OzPos
