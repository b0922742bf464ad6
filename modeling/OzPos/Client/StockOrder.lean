import OzPos.Client.StockCover
import OzPos.Client.StockMerge

namespace OzPos

variable {κ : Type}

variable (db : ClientDb κ)

variable (item : OfflineQueueItem)

def isSettled : Bool :=
  db.isRemoteFailureDeadLettered item.id || db.alreadyApplied item

variable (items : List OfflineQueueItem)

def DeliversOnly (events : List (PullEvent κ)) : Prop :=
  ∀ event ∈ events, ∃ item ∈ items, ∃ draw, event = .deliver item draw

/-- Sales and stock adjustments of other terminals, each with an effect of its own. -/
structure RemoteStockItems (db : ClientDb κ) (items : List OfflineQueueItem) : Prop where
  ids : (items.map OfflineQueueItem.id).Nodup
  effects : ∀ i ∈ items, ∀ j ∈ items, (remoteEffectKey i.action i.payload).isSome →
    remoteEffectKey i.action i.payload = remoteEffectKey j.action j.payload → i = j
  arms : ∀ i ∈ items, StockArm i
  foreign : ∀ i ∈ items, db.isSelfOriginated i = false

def pendingOf : List StockMove :=
  if isSettled db item then [] else (knownMoves db.domain item).getD []

def pendingMoves : List StockMove :=
  items.flatMap (pendingOf db)

def soldProducts (d : DomainTables κ) (items : List OfflineQueueItem) : List String :=
  items.flatMap (fun i =>
    if remoteAction i.action = .completeSale then ((knownMoves d i).getD []).map StockMove.item
    else [])

variable {item : OfflineQueueItem} {items : List OfflineQueueItem}

theorem mem_soldProducts {d : DomainTables κ} {moves : List StockMove} (hitem : item ∈ items)
    (hsale : remoteAction item.action = .completeSale) (hknown : knownMoves d item = some moves) :
    ∀ m ∈ moves, m.item ∈ soldProducts d items := by
  intro m hm
  rw [soldProducts, List.mem_flatMap]
  refine ⟨item, hitem, ?_⟩
  rw [if_pos hsale, hknown]
  exact List.mem_map.mpr ⟨m, hm, rfl⟩

theorem flatMap_perm_of_emptied {α β : Type} {f g : α → List β} {items : List α} {i : α}
    (hnodup : items.Nodup) (hi : i ∈ items) (hempty : g i = [])
    (hsame : ∀ j ∈ items, j ≠ i → g j = f j) : (items.flatMap f).Perm (f i ++ items.flatMap g) := by
  obtain ⟨before, after, rfl⟩ := List.append_of_mem hi
  rw [List.nodup_append, List.nodup_cons] at hnodup
  obtain ⟨_, ⟨hafter, _⟩, hbefore⟩ := hnodup
  have hl : before.flatMap g = before.flatMap f := by
    apply List.flatMap_congr
    intro j hj
    exact hsame j (List.mem_append_left _ hj)
      (fun heq => hbefore j hj i List.mem_cons_self heq)
  have hr : after.flatMap g = after.flatMap f := by
    apply List.flatMap_congr
    intro j hj
    exact hsame j (List.mem_append_right _ (List.mem_cons_of_mem _ hj))
      (fun heq => hafter (heq ▸ hj))
  simp only [List.flatMap_append, List.flatMap_cons, hempty, List.nil_append, hl, hr]
  rw [← List.append_assoc, ← List.append_assoc]
  exact List.perm_append_comm.append_right _

/-- What every run over the items keeps: the tables but for the stock, what is on hand plus
what is still to come, the cover of what is still to come, and which items end up applied. -/
structure OrderInvariant (start : ClientDb κ) (items : List OfflineQueueItem) (db : ClientDb κ) :
    Prop where
  frame : DomainTables.StockOnly start.domain db.domain
  onHand : ∀ product, db.domain.onHand product + DomainTables.deltaOn product (pendingMoves db items) =
    start.domain.onHand product + DomainTables.deltaOn product (pendingMoves start items)
  covers : db.domain.Covers (soldProducts start.domain items) (pendingMoves db items)
  applied : ∀ i ∈ items,
    (db.isApplied i.id || (!isSettled db i && (knownMoves start.domain i).isSome)) =
      (start.isApplied i.id || (!isSettled start i && (knownMoves start.domain i).isSome))

variable {db : ClientDb κ}

theorem OrderInvariant.start
    (hcovers : db.domain.Covers (soldProducts db.domain items) (pendingMoves db items)) :
    OrderInvariant db items db :=
  ⟨DomainTables.StockOnly.refl _, fun _ => rfl, hcovers, fun _ _ => rfl⟩

theorem isSelfOriginated_stockOnly {db' : ClientDb κ}
    (h : DomainTables.StockOnly db.domain db'.domain) (item : OfflineQueueItem) :
    db'.isSelfOriginated item = db.isSelfOriginated item := by
  obtain ⟨_, _, _, hd⟩ := h
  unfold ClientDb.isSelfOriginated
  rw [hd]
  rfl

theorem isSettled_settle {other : OfflineQueueItem} (d : DomainTables κ)
    (hnew : db.alreadyApplied item = false) (hid : other.id ≠ item.id)
    (hkey : (remoteEffectKey other.action other.payload).isSome →
      remoteEffectKey other.action other.payload ≠ remoteEffectKey item.action item.payload) :
    isSettled (ClientDb.settle item { db with domain := d }) other = isSettled db other := by
  have heffect : (remoteEffectKey other.action other.payload).any
      (ClientDb.settle item { db with domain := d }).hasEffect =
      (remoteEffectKey other.action other.payload).any db.hasEffect := by
    cases hother : remoteEffectKey other.action other.payload with
    | none => rfl
    | some key =>
      have hne : remoteEffectKey item.action item.payload ≠ some key := by
        rw [← hother]
        exact (hkey (by rw [hother]; rfl)).symm
      simp [hasEffect_settle d hnew, hne]
  unfold isSettled ClientDb.alreadyApplied
  rw [isDeadLettered_settle d hid, isApplied_settle d hid, heffect]

theorem isSettled_settle_self (d : DomainTables κ) (hnew : db.alreadyApplied item = false) :
    isSettled (ClientDb.settle item { db with domain := d }) item = true := by
  unfold isSettled ClientDb.alreadyApplied
  rw [isApplied_settle_self d hnew, Bool.true_or, Bool.or_true]

theorem isSettled_refused {other : OfflineQueueItem} (e : CoreError)
    (hid : other.id ≠ item.id) : isSettled (db.recordRemoteFailure item e) other = isSettled db other := by
  have hdead : (db.recordRemoteFailure item e).isRemoteFailureDeadLettered other.id =
      db.isRemoteFailureDeadLettered other.id := by
    unfold ClientDb.isRemoteFailureDeadLettered ClientDb.recordRemoteFailure
    rw [Table.find?_upsert, if_neg (Ne.symm hid)]
  unfold isSettled
  rw [hdead]
  rfl

variable {start : ClientDb κ}

theorem pendingOf_eq
    (hframe : DomainTables.StockOnly start.domain db.domain) (item : OfflineQueueItem) :
    pendingOf db item = if isSettled db item then [] else (knownMoves start.domain item).getD [] := by
  rw [pendingOf, knownMoves_stockOnly hframe]

theorem deltaOn_perm {item : String} {l r : List StockMove} (h : l.Perm r) :
    DomainTables.deltaOn item l = DomainTables.deltaOn item r :=
  (h.map _).sum_eq

theorem OrderInvariant.accepted (crm : Crm κ) (draw : ApplyDraw)
    (hremote : RemoteStockItems start items) (h : OrderInvariant start items db)
    (hitem : item ∈ items) (hopen : isSettled db item = false) {moves : List StockMove}
    (hknown : knownMoves start.domain item = some moves) :
    ∃ d, applyRemoteInTx crm draw item db.domain = .ok d ∧
      DomainTables.Batch db.domain moves d := by
  have hpending : pendingOf db item = moves := by
    rw [pendingOf_eq h.frame, hopen, hknown]
    rfl
  obtain ⟨before, after, hsplit⟩ := List.append_of_mem hitem
  have hperm : (pendingMoves db items).Perm
      (moves ++ (pendingMoves db before ++ pendingMoves db after)) := by
    rw [hsplit, pendingMoves, List.flatMap_append, List.flatMap_cons, hpending]
    rw [← List.append_assoc, ← List.append_assoc]
    exact List.perm_append_comm.append_right _
  rw [← knownMoves_stockOnly h.frame] at hknown
  refine applyRemoteInTx_of_covers crm draw (hremote.arms item hitem) hknown ?_
    (h.covers.perm hperm)
  intro hsale
  rw [knownMoves_stockOnly h.frame] at hknown
  exact mem_soldProducts hitem hsale hknown

variable {crm : Crm κ}

theorem OrderInvariant.apply {draw : ApplyDraw} (hremote : RemoteStockItems start items)
    (h : OrderInvariant start items db) (hitem : item ∈ items)
    (hdead : db.isRemoteFailureDeadLettered item.id = false)
    (hnew : db.alreadyApplied item = false) {d : DomainTables κ}
    (hok : applyRemoteInTx crm draw item db.domain = .ok d) :
    OrderInvariant start items (ClientDb.settle item { db with domain := d }) := by
  have hopen : isSettled db item = false := by
    rw [isSettled, hdead, hnew]
    rfl
  have hsome := knownMoves_of_applied (hremote.arms item hitem) hok
  rw [knownMoves_stockOnly h.frame] at hsome
  obtain ⟨moves, hknown⟩ := Option.isSome_iff_exists.mp hsome
  obtain ⟨d', hok', hbatch⟩ := h.accepted crm draw hremote hitem hopen hknown
  rw [hok, Except.ok.injEq] at hok'
  subst hok'
  have hframe : DomainTables.StockOnly start.domain
      (ClientDb.settle item { db with domain := d }).domain := by
    rw [settle_domain]
    exact h.frame.trans hbatch.frame
  have hothers : ∀ j ∈ items, j ≠ item →
      isSettled (ClientDb.settle item { db with domain := d }) j = isSettled db j := by
    intro j hj hne
    apply isSettled_settle d hnew
    · intro heq
      exact hne (List.inj_on_of_nodup_map hremote.ids hj hitem heq)
    · intro hkey heq
      exact hne (hremote.effects j hj item hitem hkey heq)
  have hpending : pendingOf db item = moves := by
    rw [pendingOf_eq h.frame, hopen, hknown]
    rfl
  have hperm : (pendingMoves db items).Perm
      (moves ++ pendingMoves (ClientDb.settle item { db with domain := d }) items) := by
    rw [← hpending]
    refine flatMap_perm_of_emptied (List.Nodup.of_map _ hremote.ids) hitem ?_ ?_
    · rw [pendingOf, isSettled_settle_self d hnew]
      rfl
    · intro j hj hne
      rw [pendingOf_eq hframe, pendingOf_eq h.frame, hothers j hj hne]
  refine ⟨hframe, ?_, ?_, ?_⟩
  · intro product
    have hsum := h.onHand product
    rw [deltaOn_perm hperm, DomainTables.deltaOn_append] at hsum
    rw [settle_domain, hbatch.onHand]
    omega
  · rw [settle_domain]
    exact hbatch.covers (h.covers.perm hperm)
  · intro j hj
    rw [← h.applied j hj]
    by_cases hne : j = item
    · subst hne
      rw [isApplied_settle_self d hnew, hopen, hknown]
      simp
    · have hid : j.id ≠ item.id := fun heq =>
        hne (List.inj_on_of_nodup_map hremote.ids hj hitem heq)
      rw [isApplied_settle d hid, hothers j hj hne]

theorem OrderInvariant.refuse {draw : ApplyDraw} (hremote : RemoteStockItems start items)
    (h : OrderInvariant start items db) (hitem : item ∈ items) (hopen : isSettled db item = false)
    {e : CoreError} (herr : applyRemoteInTx crm draw item db.domain = .error e) :
    OrderInvariant start items (db.recordRemoteFailure item e) := by
  have hunknown : knownMoves start.domain item = none := by
    cases hknown : knownMoves start.domain item with
    | none => rfl
    | some moves =>
      obtain ⟨d, hok, _⟩ := h.accepted crm draw hremote hitem hopen hknown
      rw [herr] at hok
      cases hok
  have hframe : DomainTables.StockOnly start.domain (db.recordRemoteFailure item e).domain := h.frame
  have hothers : ∀ j ∈ items, j ≠ item →
      isSettled (db.recordRemoteFailure item e) j = isSettled db j := by
    intro j hj hne
    exact isSettled_refused e (fun heq =>
      hne (List.inj_on_of_nodup_map hremote.ids hj hitem heq))
  have hpending : pendingMoves (db.recordRemoteFailure item e) items = pendingMoves db items := by
    apply List.flatMap_congr
    intro j hj
    rw [pendingOf_eq hframe, pendingOf_eq h.frame]
    by_cases hne : j = item
    · subst hne
      rw [hunknown, Option.getD_none, ite_self, ite_self]
    · rw [hothers j hj hne]
  refine ⟨hframe, ?_, ?_, ?_⟩
  · intro product
    rw [hpending]
    exact h.onHand product
  · rw [hpending]
    exact h.covers
  · intro j hj
    rw [← h.applied j hj]
    by_cases hne : j = item
    · subst hne
      rw [hunknown]
      simp only [Option.isSome_none, Bool.and_false, Bool.or_false]
      rfl
    · rw [hothers j hj hne]
      rfl

theorem OrderInvariant.deliver (hremote : RemoteStockItems start items)
    (h : OrderInvariant start items db) (hitem : item ∈ items)
    (draw : ApplyDraw) : OrderInvariant start items (applyRemoteAtomicFull crm draw item db).1 := by
  rcases applyRemoteAtomicFull_cases crm draw item db with
    ⟨_, heq⟩ | ⟨hdead, ⟨hself, _⟩ | ⟨_, ⟨_, heq⟩ | ⟨hnew, ⟨d, hok, heq⟩ | ⟨e, herr, heq⟩⟩⟩⟩
  · rw [heq]
    exact h
  · rw [isSelfOriginated_stockOnly h.frame, hremote.foreign item hitem] at hself
    cases hself
  · rw [heq]
    exact h
  · rw [heq]
    exact h.apply hremote hitem hdead hnew hok
  · rw [heq]
    have hopen : isSettled db item = false := by
      rw [isSettled, hdead, hnew]
      rfl
    exact h.refuse hremote hitem hopen herr

theorem OrderInvariant.run (crm : Crm κ)
    (hremote : RemoteStockItems start items) {events : List (PullEvent κ)}
    (hevents : DeliversOnly items events) (h : OrderInvariant start items db) :
    OrderInvariant start items ((pullMachine crm).run db events) := by
  induction events generalizing db with
  | nil => exact h
  | cons event rest ih =>
    obtain ⟨hhead, hrest⟩ := List.forall_mem_cons.mp hevents
    obtain ⟨item, hitem, draw, rfl⟩ := hhead
    exact ih hrest (h.deliver hremote hitem draw)

theorem OrderInvariant.settled
    (h : OrderInvariant start items db) (hsettled : ∀ i ∈ items, isSettled db i = true) :
    (∀ product, db.domain.onHand product =
        start.domain.onHand product + DomainTables.deltaOn product (pendingMoves start items)) ∧
      ∀ i ∈ items, db.isApplied i.id =
        (start.isApplied i.id || (!isSettled start i && (knownMoves start.domain i).isSome)) := by
  have hnone : pendingMoves db items = [] := by
    rw [pendingMoves, List.flatMap_eq_nil_iff]
    intro i hi
    rw [pendingOf, if_pos (hsettled i hi)]
  refine ⟨?_, ?_⟩
  · intro product
    rw [← h.onHand, hnone, DomainTables.deltaOn_nil, Int.add_zero]
  · intro i hi
    rw [← h.applied i hi, hsettled i hi]
    simp

/-- Two runs over covered stock items that settle them all end with the same stock and the
same items applied. -/
theorem stock_order_independent (crm : Crm κ) (db : ClientDb κ) (items : List OfflineQueueItem)
    (hremote : RemoteStockItems db items)
    (hcovers : db.domain.Covers (soldProducts db.domain items) (pendingMoves db items))
    (first second : List (PullEvent κ)) (hfirst : DeliversOnly items first)
    (hsecond : DeliversOnly items second)
    (hdonel : ∀ i ∈ items, isSettled ((pullMachine crm).run db first) i = true)
    (hdoner : ∀ i ∈ items, isSettled ((pullMachine crm).run db second) i = true) :
    (∀ product, ((pullMachine crm).run db first).domain.onHand product =
        ((pullMachine crm).run db second).domain.onHand product) ∧
      ∀ i ∈ items, ((pullMachine crm).run db first).isApplied i.id =
        ((pullMachine crm).run db second).isApplied i.id := by
  have hl := ((OrderInvariant.start hcovers).run crm hremote hfirst).settled hdonel
  have hr := ((OrderInvariant.start hcovers).run crm hremote hsecond).settled hdoner
  refine ⟨?_, ?_⟩
  · intro product
    rw [hl.1, hr.1]
  · intro i hi
    rw [hl.2 i hi, hr.2 i hi]

theorem alreadyApplied_settle (db : ClientDb κ) (item : OfflineQueueItem) (d : DomainTables κ) :
    (ClientDb.settle item { db with domain := d }).alreadyApplied item = true := by
  cases hkey : (remoteEffectKey item.action item.payload).any
      (ClientDb.hasEffect { db with domain := d }) with
  | true =>
    have hsame : (ClientDb.settle item { db with domain := d }).applied = db.applied := by
      rw [settle_applied, if_pos hkey]
    have heffect : (ClientDb.settle item { db with domain := d }).hasEffect =
        ClientDb.hasEffect { db with domain := d } := by
      funext key
      rw [ClientDb.hasEffect, hsame]
      rfl
    rw [ClientDb.alreadyApplied, heffect, hkey, Bool.or_true]
  | false =>
    have happlied : (ClientDb.settle item { db with domain := d }).isApplied item.id = true := by
      rw [ClientDb.isApplied, settle_applied, if_neg (by simp [hkey]), Table.find?_insertNew,
        if_pos rfl]
      cases db.applied.find? item.id <;> rfl
    rw [ClientDb.alreadyApplied, happlied, Bool.true_or]

theorem alreadyApplied_mono {db' : ClientDb κ}
    (hrows : ∀ row ∈ db.applied.rows, row ∈ db'.applied.rows)
    (h : db.alreadyApplied item = true) : db'.alreadyApplied item = true := by
  rw [alreadyApplied_iff] at h ⊢
  rcases h with ⟨row, hrow, hid⟩ | ⟨key, hkey, row, hrow, he⟩
  · exact .inl ⟨row, hrows row hrow, hid⟩
  · exact .inr ⟨key, hkey, row, hrows row hrow, he⟩

theorem rows_settle (db : ClientDb κ) (item : OfflineQueueItem) (d : DomainTables κ) :
    ∀ row ∈ db.applied.rows, row ∈ (ClientDb.settle item { db with domain := d }).applied.rows := by
  intro row hrow
  rw [settle_applied]
  split
  · exact hrow
  · exact mem_rows_insertNew hrow

def saleOf (id saleId sku : String) (qty : Int) : OfflineQueueItem :=
  queued id "complete_sale"
    (.obj [("line_items", .arr [.obj [("qty", .int qty), ("sku", .str sku)]]),
      ("sale_id", .str saleId)]) "2026-01-01T00:00:00.000Z" (some "term-B")

def stockedClient : ClientDb Unit := ⟨stockedTables, Table.empty, Table.empty, ⟨none, none⟩⟩

def deliverAll (items : List OfflineQueueItem) : List (PullEvent Unit) :=
  items.map (fun i => .deliver i sampleApply)

def smallSale : OfflineQueueItem := saleOf (uuidOf "1") (uuidOf "6") "SKU-1" 6

def largeSale : OfflineQueueItem := saleOf (uuidOf "2") (uuidOf "7") "SKU-1" 7

def twoPlaceClient : ClientDb Unit :=
  { stockedClient with domain := { stockedTables with locations := ["front", "back"] } }

def adjustmentAt (id location : String) (delta : Int) : OfflineQueueItem :=
  queued id "stock.adjusted"
    (.obj [("delta", .int delta), ("location_id", .str location), ("sku", .str "SKU-1")])
    "2026-01-01T00:00:00.000Z" (some "term-B")

def frontTwo : OfflineQueueItem := adjustmentAt (uuidOf "3") "front" (-2)

def backThree : OfflineQueueItem := adjustmentAt (uuidOf "4") "back" (-3)

theorem stock_orders_differ :
    (∀ i ∈ [smallSale, largeSale],
        isSettled ((pullMachine plainCrm).run stockedClient (deliverAll
          [smallSale, largeSale, smallSale, largeSale, smallSale, largeSale])) i = true ∧
        isSettled ((pullMachine plainCrm).run stockedClient (deliverAll
          [largeSale, smallSale, largeSale, smallSale, largeSale, smallSale])) i = true) ∧
      ((pullMachine plainCrm).run stockedClient (deliverAll
        [smallSale, largeSale, smallSale, largeSale, smallSale, largeSale])).domain.onHand
          (uuidOf "5") = 4 ∧
      ((pullMachine plainCrm).run stockedClient (deliverAll
        [largeSale, smallSale, largeSale, smallSale, largeSale, smallSale])).domain.onHand
          (uuidOf "5") = 3 ∧
      (∀ i ∈ [frontTwo, backThree],
        isSettled ((pullMachine plainCrm).run twoPlaceClient (deliverAll
          [frontTwo, backThree, frontTwo, backThree, frontTwo, backThree])) i = true ∧
        isSettled ((pullMachine plainCrm).run twoPlaceClient (deliverAll
          [backThree, frontTwo, backThree, frontTwo, backThree, frontTwo])) i = true) ∧
      ((pullMachine plainCrm).run twoPlaceClient (deliverAll
        [frontTwo, backThree, frontTwo, backThree, frontTwo, backThree])).domain.onHand
          (uuidOf "5") = 8 ∧
      ((pullMachine plainCrm).run twoPlaceClient (deliverAll
        [backThree, frontTwo, backThree, frontTwo, backThree, frontTwo])).domain.onHand
          (uuidOf "5") = 7 := by
  decide +kernel

theorem remoteStockItems_sales :
    RemoteStockItems stockedClient
      [saleOf (uuidOf "1") (uuidOf "6") "SKU-1" 3, saleOf (uuidOf "2") (uuidOf "7") "SKU-1" 7] := by
  refine ⟨by decide, by decide, ?_, by decide⟩
  intro i hi
  simp only [List.mem_cons, List.not_mem_nil, or_false] at hi
  rcases hi with rfl | rfl
  · exact .sale (by decide)
  · exact .sale (by decide)

theorem covers_sales :
    stockedClient.domain.Covers
      (soldProducts stockedClient.domain
        [saleOf (uuidOf "1") (uuidOf "6") "SKU-1" 3, saleOf (uuidOf "2") (uuidOf "7") "SKU-1" 7])
      (pendingMoves stockedClient
        [saleOf (uuidOf "1") (uuidOf "6") "SKU-1" 3,
          saleOf (uuidOf "2") (uuidOf "7") "SKU-1" 7]) := by
  have hsold : soldProducts stockedClient.domain
      [saleOf (uuidOf "1") (uuidOf "6") "SKU-1" 3, saleOf (uuidOf "2") (uuidOf "7") "SKU-1" 7] =
      [uuidOf "5", uuidOf "5"] := by decide +kernel
  have hmoves : pendingMoves stockedClient
      [saleOf (uuidOf "1") (uuidOf "6") "SKU-1" 3, saleOf (uuidOf "2") (uuidOf "7") "SKU-1" 7] =
      [⟨uuidOf "5", canonicalDefaultLocation, -3⟩, ⟨uuidOf "5", canonicalDefaultLocation, -7⟩] := by
    decide +kernel
  rw [hsold, hmoves]
  refine ⟨by decide +kernel, by decide +kernel, by decide +kernel, ?_⟩
  intro item hitem
  simp only [List.mem_cons, List.not_mem_nil, or_false, or_self] at hitem
  subst hitem
  exact ⟨DomainTables.defaultOnly_of_no_rows (by decide), by decide +kernel⟩

theorem covered_sales_agree :
    (∀ product, ((pullMachine plainCrm).run stockedClient (deliverAll
          [saleOf (uuidOf "1") (uuidOf "6") "SKU-1" 3,
            saleOf (uuidOf "2") (uuidOf "7") "SKU-1" 7])).domain.onHand product =
        ((pullMachine plainCrm).run stockedClient (deliverAll
          [saleOf (uuidOf "2") (uuidOf "7") "SKU-1" 7,
            saleOf (uuidOf "1") (uuidOf "6") "SKU-1" 3])).domain.onHand product) ∧
      ∀ i ∈ [saleOf (uuidOf "1") (uuidOf "6") "SKU-1" 3, saleOf (uuidOf "2") (uuidOf "7") "SKU-1" 7],
        ((pullMachine plainCrm).run stockedClient (deliverAll
          [saleOf (uuidOf "1") (uuidOf "6") "SKU-1" 3,
            saleOf (uuidOf "2") (uuidOf "7") "SKU-1" 7])).isApplied i.id =
        ((pullMachine plainCrm).run stockedClient (deliverAll
          [saleOf (uuidOf "2") (uuidOf "7") "SKU-1" 7,
            saleOf (uuidOf "1") (uuidOf "6") "SKU-1" 3])).isApplied i.id :=
  stock_order_independent plainCrm stockedClient _ remoteStockItems_sales covers_sales _ _
    (by
      intro event hevent
      obtain ⟨i, hi, rfl⟩ := List.mem_map.mp hevent
      exact ⟨i, hi, sampleApply, rfl⟩)
    (by
      intro event hevent
      obtain ⟨i, hi, rfl⟩ := List.mem_map.mp hevent
      exact ⟨i, List.mem_cons.mpr (by simpa [or_comm] using hi), sampleApply, rfl⟩)
    (by decide +kernel) (by decide +kernel)

end OzPos
