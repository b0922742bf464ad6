import OzPos.Client.StockEffect
import OzPos.Library.Outcome

namespace OzPos

variable (chosen : StockMove → Bool) (moves : List StockMove)

/-- What the decreases among the chosen moves take, as a number not above zero. -/
def lost : Int :=
  (moves.map (fun m => if chosen m then min m.delta 0 else 0)).sum

def gained : Int :=
  (moves.map (fun m => if chosen m then max m.delta 0 else 0)).sum

def StockMove.sameItem (m other : StockMove) : Bool := other.item = m.item

def StockMove.sameCell (m other : StockMove) : Bool :=
  other.item = m.item && other.location = m.location

@[simp] theorem lost_cons (m : StockMove) (rest : List StockMove) :
    lost chosen (m :: rest) = (if chosen m then min m.delta 0 else 0) + lost chosen rest := by
  simp [lost]

@[simp] theorem gained_cons (m : StockMove) (rest : List StockMove) :
    gained chosen (m :: rest) = (if chosen m then max m.delta 0 else 0) + gained chosen rest := by
  simp [gained]

theorem lost_nonpos : lost chosen moves ≤ 0 := by
  induction moves with
  | nil => exact le_refl _
  | cons m rest ih =>
    rw [lost_cons]
    split <;> omega

theorem gained_nonneg : 0 ≤ gained chosen moves := by
  induction moves with
  | nil => exact le_refl _
  | cons m rest ih =>
    rw [gained_cons]
    split <;> omega

variable {chosen : StockMove → Bool}

theorem lost_of_increases {moves : List StockMove}
    (h : ∀ m ∈ moves, chosen m = true → 0 ≤ m.delta) : lost chosen moves = 0 := by
  induction moves with
  | nil => rfl
  | cons m rest ih =>
    rw [lost_cons, ih (fun n hn => h n (List.mem_cons_of_mem _ hn))]
    by_cases hm : chosen m = true
    · have hdelta := h m List.mem_cons_self hm
      rw [if_pos hm]
      omega
    · rw [if_neg hm]
      omega

theorem lost_perm {l r : List StockMove} (h : l.Perm r) : lost chosen l = lost chosen r :=
  (h.map _).sum_eq

theorem gained_perm {l r : List StockMove} (h : l.Perm r) : gained chosen l = gained chosen r :=
  (h.map _).sum_eq

namespace DomainTables

variable {κ : Type}

/-- The stock bears the moves in any order: every level and every total covers all the
decreases and has room for all the increases. A product without location rows is moved at one
location only, or only upwards. A sold product is at the default location, and moved there. -/
structure Covers (d : DomainTables κ) (sold : List String) (moves : List StockMove) : Prop where
  level : ∀ m ∈ moves, 0 ≤ d.legacyAwareLocationQty m.item m.location + lost m.sameCell moves ∧
    d.legacyAwareLocationQty m.item m.location + gained m.sameCell moves < 2^63
  total : ∀ m ∈ moves, 0 ≤ d.onHand m.item + lost m.sameItem moves ∧
    d.onHand m.item + gained m.sameItem moves < 2^63
  unplaced : ∀ m ∈ moves, d.hasLocationRows m.item = false →
    (∀ n ∈ moves, n.item = m.item → n.location = m.location) ∨
      ∀ n ∈ moves, n.item = m.item → 0 ≤ n.delta
  sold : ∀ item ∈ sold, DefaultOnly d item ∧
    ∀ m ∈ moves, m.item = item → m.location = canonicalDefaultLocation

variable {d : DomainTables κ} {sold : List String}

theorem Covers.perm {l r : List StockMove}
    (h : Covers d sold l) (hperm : l.Perm r) : Covers d sold r := by
  refine ⟨?_, ?_, ?_, ?_⟩
  · intro m hm
    rw [← lost_perm hperm, ← gained_perm hperm]
    exact h.level m (hperm.mem_iff.mpr hm)
  · intro m hm
    rw [← lost_perm hperm, ← gained_perm hperm]
    exact h.total m (hperm.mem_iff.mpr hm)
  · intro m hm hrows
    rcases h.unplaced m (hperm.mem_iff.mpr hm) hrows with hone | hup
    · exact .inl (fun n hn => hone n (hperm.mem_iff.mpr hn))
    · exact .inr (fun n hn => hup n (hperm.mem_iff.mpr hn))
  · intro item hitem
    obtain ⟨hdefault, hplace⟩ := h.sold item hitem
    exact ⟨hdefault, fun m hm => hplace m (hperm.mem_iff.mpr hm)⟩

variable {rest : List StockMove} {m : StockMove}

theorem Covers.fits (h : Covers d sold (m :: rest)) (hlocation : m.location ∈ d.locations) :
    Fits d m := by
  have hlevel := h.level m List.mem_cons_self
  have htotal := h.total m List.mem_cons_self
  have hlostCell := lost_nonpos m.sameCell rest
  have hgainedCell := gained_nonneg m.sameCell rest
  have hlostItem := lost_nonpos m.sameItem rest
  have hgainedItem := gained_nonneg m.sameItem rest
  have hcell : m.sameCell m = true := by simp [StockMove.sameCell]
  have hitem : m.sameItem m = true := by simp [StockMove.sameItem]
  simp only [lost_cons, gained_cons, hcell, hitem, if_true] at hlevel htotal
  refine ⟨hlocation, ⟨?_, ?_⟩, .inr ⟨?_, ?_⟩⟩ <;> omega

variable {d₁ : DomainTables κ}

theorem level_moved (hmoved : Moved d d₁ m) {n : StockMove} (hitem : n.item ≠ m.item) :
    d₁.legacyAwareLocationQty n.item n.location = d.legacyAwareLocationQty n.item n.location := by
  have hrows : d₁.hasLocationRows n.item = d.hasLocationRows n.item := by
    simpa [hitem] using hmoved.rows n.item
  have hquantity : d₁.quantityAt n.item n.location = d.quantityAt n.item n.location := by
    rw [hmoved.quantity, if_neg (fun hboth => hitem hboth.1)]
  have hinventory : d₁.inventoryQty n.item = d.inventoryQty n.item := by
    rw [hmoved.inventory, if_neg hitem]
  simp only [legacyAwareLocationQty, hrows, hquantity, hinventory]

theorem level_moved_item (hmoved : Moved d d₁ m)
    (location : String) : d₁.legacyAwareLocationQty m.item location =
      if location = m.location then d.legacyAwareLocationQty m.item m.location + m.delta
      else d.quantityAt m.item location := by
  have hrows : d₁.hasLocationRows m.item = true := by simpa using hmoved.rows m.item
  rw [locationQty_of_rows hrows, hmoved.quantity]
  simp

theorem Covers.level_step (h : Covers d sold (m :: rest)) (hmoved : Moved d d₁ m)
    {n : StockMove} (hn : n ∈ rest) :
    0 ≤ d₁.legacyAwareLocationQty n.item n.location + lost n.sameCell rest ∧
      d₁.legacyAwareLocationQty n.item n.location + gained n.sameCell rest < 2^63 := by
  have hlevel := h.level n (List.mem_cons_of_mem _ hn)
  simp only [lost_cons, gained_cons] at hlevel
  by_cases hitem : n.item = m.item
  · rw [hitem, level_moved_item hmoved]
    rw [hitem] at hlevel
    by_cases hplace : n.location = m.location
    · have hcell : n.sameCell m = true := by simp [StockMove.sameCell, hitem, hplace]
      rw [if_pos hplace]
      rw [hplace, if_pos hcell, if_pos hcell] at hlevel
      omega
    · have hcell : n.sameCell m = false := by
        simp [StockMove.sameCell, Ne.symm hplace]
      rw [if_neg hplace]
      rw [hcell, if_neg (by simp), if_neg (by simp), Int.zero_add, Int.zero_add] at hlevel
      cases hrows : d.hasLocationRows m.item with
      | true =>
        rw [locationQty_of_rows hrows] at hlevel
        exact hlevel
      | false =>
        -- two locations: the product is only moved upwards, and this one holds nothing yet
        rcases h.unplaced m List.mem_cons_self hrows with hone | hup
        · exact absurd (hone n (List.mem_cons_of_mem _ hn) hitem) hplace
        · have hlost : lost n.sameCell rest = 0 := by
            apply lost_of_increases
            intro k hk hchosen
            apply hup k (List.mem_cons_of_mem _ hk)
            have hboth := (Bool.and_eq_true _ _).mp hchosen
            exact (of_decide_eq_true hboth.1).trans hitem
          rw [quantityAt_of_no_rows hrows, hlost]
          omega
  · have hcell : n.sameCell m = false := by
      simp [StockMove.sameCell, Ne.symm hitem]
    rw [hcell, if_neg (by simp), if_neg (by simp), Int.zero_add, Int.zero_add] at hlevel
    rw [level_moved hmoved hitem]
    exact hlevel

theorem Covers.step (h : Covers d sold (m :: rest)) (hmoved : Moved d d₁ m) :
    Covers d₁ sold rest := by
  refine ⟨fun n hn => h.level_step hmoved hn, ?_, ?_, ?_⟩
  · intro n hn
    have htotal := h.total n (List.mem_cons_of_mem _ hn)
    simp only [lost_cons, gained_cons] at htotal
    rw [hmoved.onHand]
    by_cases hitem : n.item = m.item
    · have hsame : n.sameItem m = true := by simp [StockMove.sameItem, hitem]
      rw [if_pos hitem]
      rw [if_pos hsame, if_pos hsame] at htotal
      omega
    · have hsame : n.sameItem m = false := by simp [StockMove.sameItem, Ne.symm hitem]
      rw [if_neg hitem]
      rw [hsame, if_neg (by simp), if_neg (by simp)] at htotal
      omega
  · intro n hn hrows
    have hold : d.hasLocationRows n.item = false := by
      rw [hmoved.rows, Bool.or_eq_false_iff] at hrows
      exact hrows.1
    rcases h.unplaced n (List.mem_cons_of_mem _ hn) hold with hone | hup
    · exact .inl (fun k hk => hone k (List.mem_cons_of_mem _ hk))
    · exact .inr (fun k hk => hup k (List.mem_cons_of_mem _ hk))
  · intro item hitem
    obtain ⟨hdefault, hplace⟩ := h.sold item hitem
    refine ⟨?_, fun n hn => hplace n (List.mem_cons_of_mem _ hn)⟩
    exact hdefault.moved hmoved (fun heq => hplace m List.mem_cons_self heq.symm)

variable {d' : DomainTables κ} {moves : List StockMove}

theorem Batch.covers
    (h : Batch d moves d') (hcovers : Covers d sold (moves ++ rest)) : Covers d' sold rest := by
  induction h with
  | nil d => exact hcovers
  | cons _ hmoved _ ih => exact ih (hcovers.step hmoved)

theorem applyAdjustments_of_covers (now : String) {sides : List Json}
    (hmoves : sides.mapM d.sideMove = some moves)
    (hlocations : ∀ m ∈ moves, m.location ∈ d.locations) (hcovers : Covers d sold (moves ++ rest)) :
    ∃ d', d.applyAdjustments now sides = .ok d' ∧ Batch d moves d' := by
  induction sides generalizing d moves with
  | nil =>
    have hnil : moves = [] := by simpa using hmoves.symm
    subst hnil
    exact ⟨d, rfl, Batch.nil d⟩
  | cons side sides ih =>
    simp only [List.mapM_cons, Option.bind_eq_bind, Option.bind_eq_some_iff, Option.pure_def,
      Option.some.injEq] at hmoves
    obtain ⟨m, hm, more, hmore, rfl⟩ := hmoves
    obtain ⟨hlocation, hothers⟩ := List.forall_mem_cons.mp hlocations
    obtain ⟨d₁, hmoved, heq⟩ := applyAdjustments_cons_of_fits now hm (hcovers.fits hlocation)
    rw [← hmoved.frame.sideMove] at hmore
    rw [← hmoved.frame.locations] at hothers
    obtain ⟨d', hok, hbatch⟩ := ih hmore hothers (hcovers.step hmoved)
    exact ⟨d', (heq sides).trans hok, Batch.cons hlocation hmoved hbatch⟩

theorem StockOnly.lineMove (h : StockOnly d d') : d'.lineMove = d.lineMove := by
  obtain ⟨_, _, _, rfl⟩ := h
  rfl

theorem adjustStockInTx_known {now sku : String} {delta qty : Int}
    (h : d.adjustStockInTx now sku delta = .ok (qty, d')) :
    (∃ item, d.productIdBySku sku = some item) ∧ canonicalDefaultLocation ∈ d.locations ∧
      StockOnly d d' := by
  obtain ⟨item, hsku, -, hlocation, rfl⟩ := adjustStockInTx_eq_ok h
  exact ⟨⟨item, hsku⟩, hlocation, ⟨_, _, _, rfl⟩⟩

theorem deductLines_known {now : String} {lines : List SaleLinePayload}
    (h : d.deductLines now lines = .ok d') :
    ∃ moves, lines.mapM d.lineMove = some moves ∧ ∀ m ∈ moves, m.location ∈ d.locations := by
  induction lines generalizing d with
  | nil => exact ⟨[], rfl, by simp⟩
  | cons line rest ih =>
    unfold deductLines at h
    cases hline : d.adjustStockInTx now line.sku (-line.qty) with
    | error e => simp [hline] at h
    | ok result =>
      obtain ⟨qty, d₁⟩ := result
      simp only [hline] at h
      obtain ⟨⟨item, hsku⟩, hlocation, hframe⟩ := adjustStockInTx_known hline
      obtain ⟨moves, hmoves, hlocations⟩ := ih h
      rw [hframe.lineMove] at hmoves
      rw [hframe.locations] at hlocations
      have hm : d.lineMove line = some ⟨item, canonicalDefaultLocation, -line.qty⟩ :=
        skuMove_of_sku hsku _ _
      refine ⟨⟨item, canonicalDefaultLocation, -line.qty⟩ :: moves, ?_, ?_⟩
      · simp [hm, hmoves]
      · exact List.forall_mem_cons.mpr ⟨hlocation, hlocations⟩

theorem deductLines_of_covers (now : String) {lines : List SaleLinePayload}
    (hmoves : lines.mapM d.lineMove = some moves)
    (hlocations : ∀ m ∈ moves, m.location ∈ d.locations) (hsold : ∀ m ∈ moves, m.item ∈ sold)
    (hcovers : Covers d sold (moves ++ rest)) :
    ∃ d', d.deductLines now lines = .ok d' ∧ Batch d moves d' := by
  induction lines generalizing d moves with
  | nil =>
    have hnil : moves = [] := by simpa using hmoves.symm
    subst hnil
    exact ⟨d, rfl, Batch.nil d⟩
  | cons line lines ih =>
    simp only [List.mapM_cons, Option.bind_eq_bind, Option.bind_eq_some_iff, Option.pure_def,
      Option.some.injEq] at hmoves
    obtain ⟨m, hm, more, hmore, rfl⟩ := hmoves
    obtain ⟨hlocation, hothers⟩ := List.forall_mem_cons.mp hlocations
    obtain ⟨hfirst, hlater⟩ := List.forall_mem_cons.mp hsold
    obtain ⟨item, hsku, rfl⟩ := Option.map_eq_some_iff.mp hm
    have hdefault : DefaultOnly d item := (hcovers.sold item hfirst).1
    obtain ⟨result, hline⟩ := adjustStockInTx_of_fits now hsku hdefault (hcovers.fits hlocation)
    obtain ⟨qty, d₁⟩ := result
    have hknown : ∀ other, d.productIdBySku line.sku = some other → DefaultOnly d other := by
      intro other hother
      rw [hsku, Option.some.injEq] at hother
      exact hother ▸ hdefault
    obtain ⟨item', hsku', _, hmoved⟩ := adjustStockInTx_ok hknown hline
    rw [hsku, Option.some.injEq] at hsku'
    subst hsku'
    rw [← hmoved.frame.lineMove] at hmore
    rw [← hmoved.frame.locations] at hothers
    obtain ⟨d', hok, hbatch⟩ := ih hmore hothers hlater (hcovers.step hmoved)
    refine ⟨d', ?_, Batch.cons hlocation hmoved hbatch⟩
    simp only [deductLines, hline]
    exact hok

end DomainTables

section Items

variable {κ : Type}

def remoteMoves (d : DomainTables κ) (item : OfflineQueueItem) : Option (List StockMove) :=
  match remoteAction item.action with
  | .completeSale =>
    (item.payload.doc?.bind SalePayload.read).bind (fun p =>
      if p.saleId.any d.saleCompletedHere then some [] else p.lineItems.mapM d.lineMove)
  | .stockAdjusted => item.payload.value?.bind (fun doc => (envelopeSides doc).mapM d.sideMove)
  | _ => none

def knownMoves (d : DomainTables κ) (item : OfflineQueueItem) : Option (List StockMove) :=
  (remoteMoves d item).filter (fun moves => moves.all (fun m => d.locations.contains m.location))

variable {d : DomainTables κ} {item : OfflineQueueItem}

theorem knownMoves_eq_some {moves : List StockMove} : knownMoves d item = some moves ↔
      remoteMoves d item = some moves ∧ ∀ m ∈ moves, m.location ∈ d.locations := by
  simp [knownMoves, Option.filter_eq_some_iff]

theorem knownMoves_stockOnly {d' : DomainTables κ} (h : DomainTables.StockOnly d d')
    (item : OfflineQueueItem) : knownMoves d' item = knownMoves d item := by
  obtain ⟨_, _, _, rfl⟩ := h
  rfl

inductive StockArm (item : OfflineQueueItem) : Prop where
  | sale (h : remoteAction item.action = .completeSale)
  | adjustment (h : remoteAction item.action = .stockAdjusted)

theorem parsed_eq_ok {α : Type} {what : String} {read : Json → Option α} {payload : Payload}
    {p : α} (h : parsed what read payload = .ok p) : payload.doc?.bind read = some p := by
  unfold parsed at h
  cases hread : payload.doc?.bind read with
  | none => simp [hread] at h
  | some q =>
    simp only [hread, Except.ok.injEq] at h
    rw [h]

theorem parsedValue_eq_ok {what : String} {payload : Payload} {doc : Json}
    (h : parsedValue what payload = .ok doc) : payload.value? = some doc := by
  unfold parsedValue at h
  cases hvalue : payload.value? with
  | none => simp [hvalue] at h
  | some j =>
    simp only [hvalue, Except.ok.injEq] at h
    rw [h]

theorem knownMoves_of_applied {crm : Crm κ} {draw : ApplyDraw}
    {d' : DomainTables κ} (harm : StockArm item)
    (h : applyRemoteInTx crm draw item d = .ok d') : (knownMoves d item).isSome := by
  cases harm with
  | sale harm =>
    rw [applyRemoteInTx, harm] at h
    obtain ⟨p, hparsed, hsale⟩ := Except.of_bind h
    have hread := parsed_eq_ok hparsed
    unfold DomainTables.applyCompleteSale at hsale
    by_cases hdone : p.saleId.any d.saleCompletedHere = true
    · have hknown : knownMoves d item = some [] := by
        rw [knownMoves_eq_some, remoteMoves, harm]
        simp [hread, hdone]
      rw [hknown]
      rfl
    · rw [if_neg hdone] at hsale
      obtain ⟨moves, hmoves, hlocations⟩ := DomainTables.deductLines_known hsale
      have hknown : knownMoves d item = some moves := by
        rw [knownMoves_eq_some, remoteMoves, harm]
        simp only [hread, Option.bind_some, hdone]
        exact ⟨hmoves, hlocations⟩
      rw [hknown]
      rfl
  | adjustment harm =>
    rw [applyRemoteInTx, harm] at h
    obtain ⟨doc, hparsed, hadjust⟩ := Except.of_bind h
    have hvalue := parsedValue_eq_ok hparsed
    obtain ⟨moves, hmoves, hbatch⟩ := DomainTables.applyAdjustments_batch hadjust
    have hknown : knownMoves d item = some moves := by
      rw [knownMoves_eq_some, remoteMoves, harm]
      simp only [hvalue, Option.bind_some]
      exact ⟨hmoves, hbatch.locations⟩
    rw [hknown]
    rfl

theorem applyRemoteInTx_of_covers (crm : Crm κ) (draw : ApplyDraw) {sold : List String}
    {moves rest : List StockMove} (harm : StockArm item) (hknown : knownMoves d item = some moves)
    (hsold : remoteAction item.action = .completeSale → ∀ m ∈ moves, m.item ∈ sold)
    (hcovers : DomainTables.Covers d sold (moves ++ rest)) :
    ∃ d', applyRemoteInTx crm draw item d = .ok d' ∧ DomainTables.Batch d moves d' := by
  obtain ⟨hmoves, hlocations⟩ := knownMoves_eq_some.mp hknown
  cases harm with
  | sale harm =>
    rw [remoteMoves, harm] at hmoves
    obtain ⟨p, hread, hlines⟩ := Option.bind_eq_some_iff.mp hmoves
    have hparsed : parsed "invalid sale payload" SalePayload.read item.payload = .ok p := by
      rw [parsed, hread]
    rw [applyRemoteInTx, harm]
    simp only [hparsed, Except.bind, DomainTables.applyCompleteSale]
    by_cases hdone : p.saleId.any d.saleCompletedHere = true
    · rw [if_pos hdone, Option.some.injEq] at hlines
      rw [if_pos hdone, ← hlines]
      exact ⟨d, rfl, DomainTables.Batch.nil d⟩
    · rw [if_neg hdone] at hlines
      rw [if_neg hdone]
      exact DomainTables.deductLines_of_covers draw.now hlines hlocations (hsold harm) hcovers
  | adjustment harm =>
    rw [remoteMoves, harm] at hmoves
    obtain ⟨doc, hvalue, hsides⟩ := Option.bind_eq_some_iff.mp hmoves
    have hparsed : parsedValue "invalid stock payload" item.payload = .ok doc := by
      rw [parsedValue, hvalue]
    rw [applyRemoteInTx, harm]
    simp only [hparsed, Except.bind]
    exact DomainTables.applyAdjustments_of_covers draw.now hsides hlocations hcovers

end Items

end OzPos
