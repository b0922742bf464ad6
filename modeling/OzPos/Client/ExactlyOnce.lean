import OzPos.Client.Apply
import OzPos.Library.Run

namespace OzPos

/-- The kinds of effect that carry an identity the originator minted. -/
inductive EffectKind where
  | deduct
  | finalize
  | void
  | refund
  | payment
  | movement
  | product
  | setting
  deriving DecidableEq

def EffectKind.start : EffectKind → String
  | .deduct | .finalize | .void => "sale:"
  | .refund => "refund:"
  | .payment => "payment:"
  | .movement => "stock_movement:"
  | .product => "product:"
  | .setting => "setting:"

def EffectKind.ending : EffectKind → String
  | .deduct => ":deduct"
  | .finalize => ":finalize"
  | .void => ":void"
  | .product => ":create"
  | .refund | .payment | .movement | .setting => ""

variable (item : OfflineQueueItem)

/-- The kind of effect of an item and the field of its payload that identifies it. -/
def effectName : Option (EffectKind × String) := do
  let doc ← item.payload.value?
  match remoteAction item.action with
  | .completeSale => (doc.strAt? "sale_id").map (EffectKind.deduct, ·)
  | .finalizeSale => (doc.strAt? "sale_id").map (EffectKind.finalize, ·)
  | .voidSale => (doc.strAt? "sale_id").map (EffectKind.void, ·)
  | .refundSale => (doc.strAt? "id").map (EffectKind.refund, ·)
  | .paymentRecorded => (doc.strAt? "id").map (EffectKind.payment, ·)
  | .stockMovement =>
    if doc.strAt? "merge_type" = some "crdt_delta" then none
    else (doc.strAt? "id").map (EffectKind.movement, ·)
  | .productCreated => (doc.strAt? "sku").map (EffectKind.product, ·)
  | .settingsUpdate => (doc.strAt? "key").map (EffectKind.setting, ·)
  | .stockAdjusted | .unsupported => none

def renderEffect (name : EffectKind × String) : String := name.1.start ++ name.2 ++ name.1.ending

theorem remoteEffectKey_eq :
    remoteEffectKey item.action item.payload = (effectName item).map renderEffect := by
  unfold remoteEffectKey effectName
  cases item.payload.value? with
  | none => rfl
  | some doc =>
    simp only [Option.bind_eq_bind, Option.bind_some]
    have hrender : ∀ (kind : EffectKind) (id : Option String),
        (id.map (kind, ·)).map renderEffect = id.map (fun id => kind.start ++ id ++ kind.ending) := by
      intro kind id
      cases id <;> rfl
    cases remoteAction item.action with
    | stockMovement =>
      by_cases hm : doc.strAt? "merge_type" = some "crdt_delta"
      · simp [hm]
      · simp [hm, hrender, EffectKind.start, EffectKind.ending]
    | stockAdjusted => rfl
    | unsupported => rfl
    | completeSale => simp [hrender, EffectKind.start, EffectKind.ending]
    | productCreated => simp [hrender, EffectKind.start, EffectKind.ending]
    | settingsUpdate => simp [hrender, EffectKind.start, EffectKind.ending]
    | finalizeSale => simp [hrender, EffectKind.start, EffectKind.ending]
    | refundSale => simp [hrender, EffectKind.start, EffectKind.ending]
    | voidSale => simp [hrender, EffectKind.start, EffectKind.ending]
    | paymentRecorded => simp [hrender, EffectKind.start, EffectKind.ending]

theorem take_two_start (kind : EffectKind) (text : List Char) :
    (kind.start.toList ++ text).take 2 = kind.start.toList.take 2 := by
  cases kind <;> rfl

theorem start_eq_of_take {k l : EffectKind}
    (h : k.start.toList.take 2 = l.start.toList.take 2) : k.start = l.start := by
  revert h
  cases k <;> cases l <;> decide

theorem kind_eq_of_ending {k l : EffectKind} {a b : List Char} (hstart : k.start = l.start)
    (h : a ++ k.ending.toList = b ++ l.ending.toList) : k = l := by
  have hlast : k.ending.toList.getLast? = l.ending.toList.getLast? ∨
      k.ending.toList = [] ∨ l.ending.toList = [] := by
    by_cases hk : k.ending.toList = []
    · exact .inr (.inl hk)
    · by_cases hl : l.ending.toList = []
      · exact .inr (.inr hl)
      · left
        have hl' := congrArg List.getLast? h
        rwa [List.getLast?_append_of_ne_nil _ hk, List.getLast?_append_of_ne_nil _ hl] at hl'
  revert hstart hlast
  cases k <;> cases l <;> decide

theorem renderEffect_inj {n m : EffectKind × String} (h : renderEffect n = renderEffect m) :
    n = m := by
  obtain ⟨k, a⟩ := n
  obtain ⟨l, b⟩ := m
  have htext := congrArg String.toList h
  simp only [renderEffect, String.toList_append, List.append_assoc] at htext
  have htake := congrArg (List.take 2) htext
  rw [take_two_start, take_two_start] at htake
  have hstart := start_eq_of_take htake
  rw [hstart] at htext
  have htail := List.append_cancel_left htext
  have hkind := kind_eq_of_ending hstart htail
  rw [hkind] at htail
  have hid := String.toList_inj.mp (List.append_cancel_right htail)
  rw [hkind, hid]

inductive EffectDetail where
  | plain
  | change (payload : Option SettingsUpdatePayload)
  | description (payload : Option ProductDescription)
  deriving DecidableEq

def effectDetail : EffectDetail :=
  match remoteAction item.action with
  | .settingsUpdate => .change (item.payload.doc?.bind SettingsUpdatePayload.read)
  | .productCreated =>
    .description (item.payload.value?.bind (fun doc =>
      (parseCurrency ((doc.strAt? "currency").getD "")).map (describedProduct doc)))
  | _ => .plain

/-- The mutation an item stands for; one without a minted identity is known by its delivery. -/
inductive BusinessEffect where
  | named (kind : EffectKind) (id : String) (detail : EffectDetail)
  | delivery (itemId : String)
  deriving DecidableEq

def businessEffect : BusinessEffect :=
  match effectName item with
  | some (kind, id) => .named kind id (effectDetail item)
  | none => .delivery item.id

inductive PullEvent (κ : Type) where
  | deliver (item : OfflineQueueItem) (draw : ApplyDraw)
  | localWrite (write : DomainTables κ → DomainTables κ)

section Run

variable {κ : Type} (crm : Crm κ)

def pullMachine : Machine (ClientDb κ) (PullEvent κ) (Option (Except CoreError ApplyOutcome)) where
  step db
    | .deliver item draw =>
      let (db', result) := applyRemoteAtomicFull crm draw item db
      (db', some result)
    | .localWrite write => ({ db with domain := write db.domain }, none)

def deliveredItems : List (PullEvent κ) → List OfflineQueueItem
  | [] => []
  | .deliver item _ :: rest => item :: deliveredItems rest
  | .localWrite _ :: rest => deliveredItems rest

variable (db : ClientDb κ)

def appliedBy : PullEvent κ → List OfflineQueueItem
  | .deliver item draw =>
    match (applyRemoteAtomicFull crm draw item db).2 with
    | .ok outcome => if outcome.applied then [item] else []
    | .error _ => []
  | .localWrite _ => []

def handledBy : PullEvent κ → List OfflineQueueItem
  | .deliver item draw =>
    if !db.isRemoteFailureDeadLettered item.id && db.isSelfOriginated item then [item]
    else appliedBy crm db (.deliver item draw)
  | .localWrite _ => []

def collect (which : ClientDb κ → PullEvent κ → List OfflineQueueItem) :
    ClientDb κ → List (PullEvent κ) → List OfflineQueueItem
  | _, [] => []
  | db, event :: rest => which db event ++ collect which ((pullMachine crm).step db event).1 rest

variable (events : List (PullEvent κ))

def applications : List OfflineQueueItem :=
  collect crm (appliedBy crm) db events

def handledItems : List OfflineQueueItem :=
  collect crm (handledBy crm) db events

variable {crm}

theorem applyRemoteAtomicFull_cases (crm : Crm κ) (draw : ApplyDraw) (item : OfflineQueueItem)
    (db : ClientDb κ) :
    (db.isRemoteFailureDeadLettered item.id = true ∧
        applyRemoteAtomicFull crm draw item db = (db, .ok .default)) ∨
      (db.isRemoteFailureDeadLettered item.id = false ∧
        (db.isSelfOriginated item = true ∧
            applyRemoteAtomicFull crm draw item db = (db.settle item, .ok .default) ∨
          db.isSelfOriginated item = false ∧
            (db.alreadyApplied item = true ∧
                applyRemoteAtomicFull crm draw item db = (db, .ok .default) ∨
              db.alreadyApplied item = false ∧
                ((∃ domain, applyRemoteInTx crm draw item db.domain = .ok domain ∧
                    applyRemoteAtomicFull crm draw item db =
                      (({ db with domain }).settle item, .ok ⟨true, settingsChangeOf item⟩)) ∨
                  ∃ e, applyRemoteInTx crm draw item db.domain = .error e ∧
                    applyRemoteAtomicFull crm draw item db =
                      (db.recordRemoteFailure item e, .error e))))) := by
  unfold applyRemoteAtomicFull
  cases hdead : db.isRemoteFailureDeadLettered item.id with
  | true => simp
  | false =>
    cases hself : db.isSelfOriginated item with
    | true => simp
    | false =>
      cases halready : db.alreadyApplied item with
      | true => simp
      | false => cases happly : applyRemoteInTx crm draw item db.domain <;> simp

@[simp] theorem settle_domain (item : OfflineQueueItem) (db : ClientDb κ) :
    (db.settle item).domain = db.domain := by
  unfold ClientDb.settle ClientDb.markRemoteItemApplied ClientDb.clearRemoteFailure
  split <;> rfl

theorem settle_applied (item : OfflineQueueItem) (db : ClientDb κ) :
    (db.settle item).applied =
      if (remoteEffectKey item.action item.payload).any db.hasEffect then db.applied
      else db.applied.insertNew ⟨item.id, item.action, remoteEffectKey item.action item.payload⟩ := by
  unfold ClientDb.settle ClientDb.markRemoteItemApplied ClientDb.clearRemoteFailure
  split <;> rfl

theorem settle_failures (item : OfflineQueueItem) (db : ClientDb κ) :
    (db.settle item).failures = db.failures.retain (fun row => row.itemId ≠ item.id) := by
  unfold ClientDb.settle ClientDb.markRemoteItemApplied ClientDb.clearRemoteFailure
  split <;> rfl

variable {db : ClientDb κ} {item : OfflineQueueItem}

theorem isDeadLettered_settle {id : String}
    (d : DomainTables κ) (h : id ≠ item.id) :
    (ClientDb.settle item { db with domain := d }).isRemoteFailureDeadLettered id =
      db.isRemoteFailureDeadLettered id := by
  unfold ClientDb.isRemoteFailureDeadLettered
  rw [settle_failures, Table.find?_retain]
  intro row hrow
  rw [hrow]
  exact decide_eq_true h

theorem isApplied_settle {id : String} (d : DomainTables κ) (h : id ≠ item.id) :
    (ClientDb.settle item { db with domain := d }).isApplied id = db.isApplied id := by
  unfold ClientDb.isApplied
  rw [settle_applied]
  split
  · rfl
  · rw [Table.find?_insertNew, if_neg (Ne.symm h), Option.or_none]

theorem settle_new (d : DomainTables κ)
    (hnew : db.alreadyApplied item = false) :
    (ClientDb.settle item { db with domain := d }).applied.rows = db.applied.rows ++
      [⟨item.id, item.action, remoteEffectKey item.action item.payload⟩] := by
  unfold ClientDb.alreadyApplied at hnew
  rw [Bool.or_eq_false_iff] at hnew
  obtain ⟨hid, hkey⟩ := hnew
  have hfind : db.applied.find? item.id = none := by simpa [ClientDb.isApplied] using hid
  have hnone : (remoteEffectKey item.action item.payload).any
      (ClientDb.hasEffect { db with domain := d }) = false := hkey
  rw [settle_applied, hnone, if_neg (by simp), Table.rows_insertNew, hfind]
  rfl

theorem isApplied_settle_self (d : DomainTables κ) (hnew : db.alreadyApplied item = false) :
    (ClientDb.settle item { db with domain := d }).isApplied item.id = true := by
  have hmem : (⟨item.id, item.action, remoteEffectKey item.action item.payload⟩ : AppliedItem) ∈
      (ClientDb.settle item { db with domain := d }).applied.rows := by
    rw [settle_new d hnew]
    exact List.mem_append_right _ List.mem_cons_self
  unfold ClientDb.isApplied
  rw [(Table.mem_rows_iff _ _).mp hmem]
  rfl

theorem hasEffect_settle (d : DomainTables κ)
    (hnew : db.alreadyApplied item = false) (key : String) :
    (ClientDb.settle item { db with domain := d }).hasEffect key =
      (db.hasEffect key || decide (remoteEffectKey item.action item.payload = some key)) := by
  unfold ClientDb.hasEffect
  rw [settle_new d hnew]
  simp [List.any_append]

/-- The effect of an item is on the ledger: under its key, or else under the item's id. -/
def Named (applied : Table String AppliedItem AppliedItem.itemId) (item : OfflineQueueItem) :
    Prop :=
  match remoteEffectKey item.action item.payload with
  | some key => ∃ row ∈ applied.rows, row.effectKey = some key
  | none => ∃ row ∈ applied.rows, row.itemId = item.id

/-- The receipts of a store are those of the items it has handled. -/
structure Receipted (applied : Table String AppliedItem AppliedItem.itemId)
    (handled : List OfflineQueueItem) : Prop where
  rows : ∀ row ∈ applied.rows, ∃ i ∈ handled,
    row.itemId = i.id ∧ row.effectKey = remoteEffectKey i.action i.payload
  named : ∀ i ∈ handled, Named applied i

variable (items : List OfflineQueueItem)

def IdsIdentify : Prop :=
  ∀ i ∈ items, ∀ j ∈ items, i.id = j.id → i = j

/-- Items of one effect name agree on the change or the product they describe. -/
def KeysNameEffects : Prop :=
  ∀ i ∈ items, ∀ j ∈ items, (effectName i).isSome → effectName i = effectName j →
    effectDetail i = effectDetail j

theorem hasEffect_iff (db : ClientDb κ) (key : String) :
    db.hasEffect key = true ↔ ∃ row ∈ db.applied.rows, row.effectKey = some key := by
  simp [ClientDb.hasEffect]

theorem alreadyApplied_iff (db : ClientDb κ) (item : OfflineQueueItem) :
    db.alreadyApplied item = true ↔
      (∃ row ∈ db.applied.rows, row.itemId = item.id) ∨
        ∃ key, remoteEffectKey item.action item.payload = some key ∧
          ∃ row ∈ db.applied.rows, row.effectKey = some key := by
  have hid : db.isApplied item.id = true ↔ ∃ row ∈ db.applied.rows, row.itemId = item.id := by
    unfold ClientDb.isApplied
    cases hf : db.applied.find? item.id with
    | none =>
      rw [Table.find?_eq_none_iff] at hf
      simp only [Option.isSome_none, Bool.false_eq_true, false_iff, not_exists, not_and]
      exact hf
    | some row =>
      have hrow := (Table.find?_eq_some_iff _ _ _).mp hf
      exact iff_of_true rfl ⟨row, hrow.1, hrow.2⟩
  unfold ClientDb.alreadyApplied
  rw [Bool.or_eq_true, hid, Option.any_eq_true]
  simp [hasEffect_iff]

theorem named_alreadyApplied (h : Named db.applied item) : db.alreadyApplied item = true := by
  rw [alreadyApplied_iff]
  unfold Named at h
  cases hkey : remoteEffectKey item.action item.payload with
  | some key => exact .inr ⟨key, rfl, by simpa [hkey] using h⟩
  | none => exact .inl (by simpa [hkey] using h)

theorem mem_rows_insertNew {t : Table String AppliedItem AppliedItem.itemId} {r row : AppliedItem}
    (h : row ∈ t.rows) : row ∈ (t.insertNew r).rows := by
  rw [Table.rows_insertNew]
  split
  · exact h
  · exact List.mem_append_left _ h

theorem Named.mono {t u : Table String AppliedItem AppliedItem.itemId}
    (hsub : ∀ row ∈ t.rows, row ∈ u.rows) (h : Named t item) : Named u item := by
  unfold Named at h ⊢
  cases hkey : remoteEffectKey item.action item.payload with
  | some key =>
    simp only [hkey] at h
    obtain ⟨row, hrow, he⟩ := h
    exact ⟨row, hsub row hrow, he⟩
  | none =>
    simp only [hkey] at h
    obtain ⟨row, hrow, he⟩ := h
    exact ⟨row, hsub row hrow, he⟩

variable {handled : List OfflineQueueItem}

theorem Receipted.settle (h : Receipted db.applied handled) (item : OfflineQueueItem)
    (hids : IdsIdentify (handled ++ [item])) :
    Receipted (db.settle item).applied (handled ++ [item]) := by
  rw [settle_applied]
  cases hkey : (remoteEffectKey item.action item.payload).any db.hasEffect with
  | true =>
    obtain ⟨key, hk, heffect⟩ := (Option.any_eq_true _ _).mp hkey
    rw [if_pos rfl]
    refine ⟨?_, ?_⟩
    · intro row hrow
      obtain ⟨i, hi, hrow⟩ := h.rows row hrow
      exact ⟨i, List.mem_append_left _ hi, hrow⟩
    · intro i hi
      rcases List.mem_append.mp hi with hi | hi
      · exact h.named i hi
      · rw [List.mem_singleton.mp hi]
        unfold Named
        rw [hk]
        exact (hasEffect_iff db key).mp heffect
  | false =>
    rw [if_neg (by simp)]
    refine ⟨?_, ?_⟩
    · intro row hrow
      rw [Table.rows_insertNew] at hrow
      split at hrow
      · obtain ⟨i, hi, hrow⟩ := h.rows row hrow
        exact ⟨i, List.mem_append_left _ hi, hrow⟩
      · rcases List.mem_append.mp hrow with hrow | hrow
        · obtain ⟨i, hi, hrow⟩ := h.rows row hrow
          exact ⟨i, List.mem_append_left _ hi, hrow⟩
        · rw [List.mem_singleton.mp hrow]
          exact ⟨item, List.mem_append_right _ List.mem_cons_self, rfl, rfl⟩
    · intro i hi
      rcases List.mem_append.mp hi with hi | hi
      · exact (h.named i hi).mono (fun row hrow => mem_rows_insertNew hrow)
      · rw [List.mem_singleton.mp hi]
        have hrow := Table.find?_insertNew db.applied
          ⟨item.id, item.action, remoteEffectKey item.action item.payload⟩ item.id
        cases hf : db.applied.find? item.id with
        | none =>
          rw [hf, Option.none_or, if_pos rfl] at hrow
          have hmem := ((Table.find?_eq_some_iff _ _ _).mp hrow).1
          unfold Named
          cases hk : remoteEffectKey item.action item.payload with
          | some key => exact ⟨⟨item.id, item.action, some key⟩, by rwa [hk] at hmem, rfl⟩
          | none => exact ⟨⟨item.id, item.action, none⟩, by rwa [hk] at hmem, rfl⟩
        | some old =>
          -- a receipt under this id is a receipt of this very item
          obtain ⟨hold, hid⟩ := (Table.find?_eq_some_iff _ _ _).mp hf
          obtain ⟨j, hj, hji, hjk⟩ := h.rows old hold
          have heq : j = item := hids j (List.mem_append_left _ hj) item
            (List.mem_append_right _ List.mem_cons_self) (by rw [← hji, hid])
          exact (heq ▸ h.named j hj).mono (fun row hrow => mem_rows_insertNew hrow)

theorem step_deliver (draw : ApplyDraw) (item : OfflineQueueItem) (db : ClientDb κ) :
    (pullMachine crm).step db (.deliver item draw) =
      ((applyRemoteAtomicFull crm draw item db).1,
        some (applyRemoteAtomicFull crm draw item db).2) := rfl

theorem handledBy_sublist (db : ClientDb κ) (event : PullEvent κ) :
    (handledBy crm db event).Sublist (deliveredItems [event]) := by
  cases event with
  | localWrite write => exact List.Sublist.refl _
  | deliver item draw =>
    simp only [handledBy, appliedBy, deliveredItems]
    split
    · exact List.Sublist.refl _
    · split
      · split
        · exact List.Sublist.refl _
        · exact List.nil_sublist _
      · exact List.nil_sublist _

theorem deliveredItems_cons (event : PullEvent κ) (rest : List (PullEvent κ)) :
    deliveredItems (event :: rest) = deliveredItems [event] ++ deliveredItems rest := by
  cases event <;> rfl

instance : Decidable (IdsIdentify items) :=
  inferInstanceAs (Decidable (∀ i ∈ items, ∀ j ∈ items, _))

instance : Decidable (KeysNameEffects items) :=
  inferInstanceAs (Decidable (∀ i ∈ items, ∀ j ∈ items, _))

theorem IdsIdentify.subset {items sub : List OfflineQueueItem} (h : IdsIdentify items)
    (hsub : ∀ i ∈ sub, i ∈ items) : IdsIdentify sub :=
  fun i hi j hj => h i (hsub i hi) j (hsub j hj)

theorem IdsIdentify.step {event : PullEvent κ} {rest : List (PullEvent κ)}
    (hids : IdsIdentify (handled ++ deliveredItems (event :: rest))) (crm : Crm κ)
    (db : ClientDb κ) :
    IdsIdentify (handled ++ deliveredItems [event]) ∧
      IdsIdentify ((handled ++ handledBy crm db event) ++ deliveredItems rest) := by
  rw [deliveredItems_cons, ← List.append_assoc] at hids
  refine ⟨hids.subset (fun i hi => List.mem_append_left _ hi), hids.subset ?_⟩
  intro i hi
  rcases List.mem_append.mp hi with hi | hi
  · apply List.mem_append_left
    rcases List.mem_append.mp hi with hi | hi
    · exact List.mem_append_left _ hi
    · exact List.mem_append_right _ ((handledBy_sublist db event).subset hi)
  · exact List.mem_append_right _ hi

theorem Receipted.step (h : Receipted db.applied handled) (event : PullEvent κ)
    (hids : IdsIdentify (handled ++ deliveredItems [event])) :
    Receipted ((pullMachine crm).step db event).1.applied (handled ++ handledBy crm db event) := by
  cases event with
  | localWrite write => simpa [pullMachine, handledBy] using h
  | deliver item draw =>
    rw [step_deliver]
    have hsettle := h.settle item hids
    rcases applyRemoteAtomicFull_cases crm draw item db with
      ⟨hdead, heq⟩ | ⟨hdead, ⟨hself, heq⟩ | ⟨hself, ⟨_, heq⟩ | ⟨_, ⟨domain, _, heq⟩ | ⟨e, _, heq⟩⟩⟩⟩
    · simpa [handledBy, appliedBy, heq, hdead, ApplyOutcome.default] using h
    · simpa [handledBy, heq, hdead, hself] using hsettle
    · simpa [handledBy, appliedBy, heq, hdead, hself, ApplyOutcome.default] using h
    · simp only [handledBy, appliedBy, heq, hdead, hself, Bool.and_false, Bool.false_eq_true,
        if_false, if_true]
      rw [settle_applied] at hsettle ⊢
      exact hsettle
    · simpa [handledBy, appliedBy, heq, hdead, hself, ClientDb.recordRemoteFailure] using h

theorem Receipted.run (h : Receipted db.applied handled) (events : List (PullEvent κ))
    (hids : IdsIdentify (handled ++ deliveredItems events)) :
    Receipted ((pullMachine crm).run db events).applied
      (handled ++ handledItems crm db events) := by
  induction events generalizing db handled with
  | nil => simpa [handledItems, collect] using h
  | cons event rest ih =>
    obtain ⟨hhead, hrest⟩ := hids.step crm db
    have hnext := ih (h.step event hhead) hrest
    rw [handledItems, collect, ← List.append_assoc]
    exact hnext

variable {i j : OfflineQueueItem}

theorem effectName_of_key {key : String} (hi : remoteEffectKey i.action i.payload = some key)
    (hj : remoteEffectKey j.action j.payload = some key) :
    (effectName i).isSome ∧ effectName i = effectName j := by
  rw [remoteEffectKey_eq] at hi hj
  obtain ⟨n, hn, hnk⟩ := Option.map_eq_some_iff.mp hi
  obtain ⟨m, hm, hmk⟩ := Option.map_eq_some_iff.mp hj
  have heq : n = m := renderEffect_inj (hnk.trans hmk.symm)
  exact ⟨by rw [hn]; rfl, by rw [hn, hm, heq]⟩

theorem businessEffect_of_name (hsome : (effectName i).isSome)
    (hname : effectName i = effectName j) (hdetail : effectDetail i = effectDetail j) :
    businessEffect i = businessEffect j := by
  obtain ⟨name, hi⟩ := Option.isSome_iff_exists.mp hsome
  have hj : effectName j = some name := hname ▸ hi
  simp [businessEffect, hi, hj, hdetail]

theorem Receipted.covered (h : Receipted db.applied handled)
    (hids : IdsIdentify (handled ++ [item])) (hkeys : KeysNameEffects (handled ++ [item]))
    (halready : db.alreadyApplied item = true) :
    ∃ j ∈ handled, businessEffect j = businessEffect item := by
  have hitem : item ∈ handled ++ [item] := List.mem_append_right _ List.mem_cons_self
  rcases (alreadyApplied_iff db item).mp halready with ⟨row, hrow, hid⟩ | ⟨key, hkey, row, hrow, he⟩
  · obtain ⟨j, hj, hjid, _⟩ := h.rows row hrow
    have heq := hids j (List.mem_append_left _ hj) item hitem (by rw [← hjid, hid])
    exact ⟨j, hj, by rw [heq]⟩
  · obtain ⟨j, hj, _, hjkey⟩ := h.rows row hrow
    rw [he] at hjkey
    obtain ⟨hsome, hname⟩ := effectName_of_key hjkey.symm hkey
    have hdetail := hkeys j (List.mem_append_left _ hj) item hitem hsome hname
    exact ⟨j, hj, businessEffect_of_name hsome hname hdetail⟩

theorem Named.congr {applied : Table String AppliedItem AppliedItem.itemId}
    (h : businessEffect i = businessEffect j) (hi : Named applied i) : Named applied j := by
  unfold Named at hi ⊢
  rw [remoteEffectKey_eq] at hi ⊢
  unfold businessEffect at h
  cases hni : effectName i with
  | some n =>
    obtain ⟨k, a⟩ := n
    cases hnj : effectName j with
    | some m =>
      simp only [hni, hnj, BusinessEffect.named.injEq] at h
      obtain ⟨hk, ha, _⟩ := h
      simpa [hni, hk, ha] using hi
    | none => simp [hni, hnj] at h
  | none =>
    cases hnj : effectName j with
    | some m => simp [hni, hnj] at h
    | none =>
      simp only [hni, hnj, BusinessEffect.delivery.injEq] at h
      simpa [hni, h] using hi

theorem appliedBy_mem {event : PullEvent κ} (h : i ∈ appliedBy crm db event) :
    db.alreadyApplied i = false ∧ i ∈ handledBy crm db event ∧
      appliedBy crm db event = [i] := by
  cases event with
  | localWrite write => simp [appliedBy] at h
  | deliver item draw =>
    rcases applyRemoteAtomicFull_cases crm draw item db with
      ⟨hdead, heq⟩ | ⟨hdead, ⟨hself, heq⟩ | ⟨hself, ⟨_, heq⟩ | ⟨hnew, ⟨domain, _, heq⟩ | ⟨e, _, heq⟩⟩⟩⟩
    · simp [appliedBy, heq, ApplyOutcome.default] at h
    · simp [appliedBy, heq, ApplyOutcome.default] at h
    · simp [appliedBy, heq, ApplyOutcome.default] at h
    · have hone : appliedBy crm db (.deliver item draw) = [item] := by simp [appliedBy, heq]
      rw [hone, List.mem_singleton] at h
      subst h
      refine ⟨hnew, ?_, hone⟩
      simp [handledBy, hone, hself]
    · simp [appliedBy, heq] at h

theorem applications_distinct (h : Receipted db.applied handled) (events : List (PullEvent κ))
    (hids : IdsIdentify (handled ++ deliveredItems events)) :
    ((applications crm db events).map businessEffect).Nodup ∧
      ∀ i ∈ applications crm db events, ∀ j ∈ handled, businessEffect j ≠ businessEffect i := by
  induction events generalizing db handled with
  | nil => simp [applications, collect]
  | cons event rest ih =>
    obtain ⟨hhead, hrest⟩ := hids.step crm db
    obtain ⟨hnodup, hnew⟩ := ih (h.step event hhead) hrest
    have happs : applications crm db (event :: rest) =
        appliedBy crm db event ++ applications crm ((pullMachine crm).step db event).1 rest := rfl
    have hfirst : ∀ i ∈ appliedBy crm db event, ∀ j ∈ handled,
        businessEffect j ≠ businessEffect i := by
      intro i hi j hj heq
      have halready := named_alreadyApplied (Named.congr heq (h.named j hj))
      rw [(appliedBy_mem hi).1] at halready
      cases halready
    rw [happs, List.map_append, List.nodup_append]
    refine ⟨⟨?_, hnodup, ?_⟩, ?_⟩
    · cases hone : appliedBy crm db event with
      | nil => exact List.nodup_nil
      | cons i more =>
        have hi : i ∈ appliedBy crm db event := by rw [hone]; exact List.mem_cons_self
        rw [← hone, (appliedBy_mem hi).2.2]
        exact List.nodup_singleton _
    · intro a ha b hb
      obtain ⟨i, hi, rfl⟩ := List.mem_map.mp ha
      obtain ⟨j, hj, rfl⟩ := List.mem_map.mp hb
      exact hnew j hj i (List.mem_append_right _ (appliedBy_mem hi).2.1)
    · intro i hi j hj
      rcases List.mem_append.mp hi with hi | hi
      · exact hfirst i hi j hj
      · exact hnew i hi j (List.mem_append_left _ hj)

variable (crm)

/-- What one delivery of a run owes: a refusal touches only the failure ledger, an
application is the item's own, and an item is skipped only when it is quarantined, this
terminal's own, or its very effect has been handled. -/
structure DeliverySound (start : ClientDb κ) (before : List (PullEvent κ))
    (item : OfflineQueueItem) (draw : ApplyDraw) : Prop where
  refused : ∀ e, (applyRemoteAtomicFull crm draw item ((pullMachine crm).run start before)).2 = .error e →
    ∃ failures, (applyRemoteAtomicFull crm draw item ((pullMachine crm).run start before)).1 =
      { (pullMachine crm).run start before with failures }
  applied : ∀ outcome,
    (applyRemoteAtomicFull crm draw item ((pullMachine crm).run start before)).2 = .ok outcome →
    outcome.applied = true →
    applyRemoteInTx crm draw item ((pullMachine crm).run start before).domain =
      .ok (applyRemoteAtomicFull crm draw item ((pullMachine crm).run start before)).1.domain
  skipped : ∀ outcome,
    (applyRemoteAtomicFull crm draw item ((pullMachine crm).run start before)).2 = .ok outcome →
    outcome.applied = false →
    (applyRemoteAtomicFull crm draw item ((pullMachine crm).run start before)).1.domain =
        ((pullMachine crm).run start before).domain ∧
      (((pullMachine crm).run start before).isRemoteFailureDeadLettered item.id = true ∨
        ((pullMachine crm).run start before).isSelfOriginated item = true ∨
        ∃ j ∈ handledItems crm start before, businessEffect j = businessEffect item)

variable {crm}

theorem delivery_sound {start : ClientDb κ} {before : List (PullEvent κ)} (draw : ApplyDraw)
    (h : Receipted ((pullMachine crm).run start before).applied (handledItems crm start before))
    (hids : IdsIdentify (handledItems crm start before ++ [item]))
    (hkeys : KeysNameEffects (handledItems crm start before ++ [item])) :
    DeliverySound crm start before item draw := by
  have hcases := applyRemoteAtomicFull_cases crm draw item ((pullMachine crm).run start before)
  generalize hdb : (pullMachine crm).run start before = db at *
  refine ⟨?_, ?_, ?_⟩
  · intro e he
    rw [hdb] at he ⊢
    rcases hcases with
      ⟨_, heq⟩ | ⟨_, ⟨_, heq⟩ | ⟨_, ⟨_, heq⟩ | ⟨_, ⟨domain, _, heq⟩ | ⟨e', _, heq⟩⟩⟩⟩
    · simp [heq] at he
    · simp [heq] at he
    · simp [heq] at he
    · simp [heq] at he
    · rw [heq]
      exact ⟨_, rfl⟩
  · intro outcome ho happlied
    rw [hdb] at ho ⊢
    rcases hcases with
      ⟨_, heq⟩ | ⟨_, ⟨_, heq⟩ | ⟨_, ⟨_, heq⟩ | ⟨_, ⟨domain, hok, heq⟩ | ⟨e', _, heq⟩⟩⟩⟩
    · simp only [heq, Except.ok.injEq] at ho
      simp [← ho, ApplyOutcome.default] at happlied
    · simp only [heq, Except.ok.injEq] at ho
      simp [← ho, ApplyOutcome.default] at happlied
    · simp only [heq, Except.ok.injEq] at ho
      simp [← ho, ApplyOutcome.default] at happlied
    · rw [heq, hok, settle_domain]
    · simp [heq] at ho
  · intro outcome ho hskipped
    rw [hdb] at ho ⊢
    rcases hcases with
      ⟨hdead, heq⟩ | ⟨_, ⟨hself, heq⟩ | ⟨_, ⟨halready, heq⟩ | ⟨_, ⟨domain, _, heq⟩ | ⟨e', _, heq⟩⟩⟩⟩
    · exact ⟨by rw [heq], .inl hdead⟩
    · exact ⟨by rw [heq, settle_domain], .inr (.inl hself)⟩
    · exact ⟨by rw [heq], .inr (.inr (h.covered hids hkeys halready))⟩
    · simp only [heq, Except.ok.injEq] at ho
      simp [← ho] at hskipped
    · simp [heq] at ho

theorem handledItems_subset (db : ClientDb κ) (events : List (PullEvent κ)) :
    ∀ i ∈ handledItems crm db events, i ∈ deliveredItems events := by
  induction events generalizing db with
  | nil => simp [handledItems, collect]
  | cons event rest ih =>
    intro i hi
    rw [deliveredItems_cons]
    rcases List.mem_append.mp hi with hi | hi
    · exact List.mem_append_left _ ((handledBy_sublist db event).subset hi)
    · exact List.mem_append_right _ (ih _ i hi)

theorem deliveredItems_append (l r : List (PullEvent κ)) :
    deliveredItems (l ++ r) = deliveredItems l ++ deliveredItems r := by
  induction l with
  | nil => rfl
  | cons event l ih => rw [List.cons_append, deliveredItems_cons, ih, ← List.append_assoc,
      ← deliveredItems_cons]

theorem receipted_empty {applied : Table String AppliedItem AppliedItem.itemId}
    (h : applied.rows = []) : Receipted applied [] :=
  ⟨by simp [h], by simp⟩

/-- Every effect of a run is applied at most once, and every delivery is sound. -/
theorem remote_effects_exactly_once (crm : Crm κ) (start : ClientDb κ)
    (events : List (PullEvent κ)) (hempty : start.applied.rows = [])
    (hids : IdsIdentify (deliveredItems events)) (hkeys : KeysNameEffects (deliveredItems events)) :
    ((applications crm start events).map businessEffect).Nodup ∧
      ∀ before item draw after, events = before ++ .deliver item draw :: after →
        DeliverySound crm start before item draw := by
  refine ⟨(applications_distinct (receipted_empty hempty) events hids).1, ?_⟩
  intro before item draw after hsplit
  have hdelivered : deliveredItems events =
      deliveredItems before ++ item :: deliveredItems after := by
    rw [hsplit, deliveredItems_append]
    rfl
  have hsub : ∀ i ∈ handledItems crm start before ++ [item], i ∈ deliveredItems events := by
    intro i hi
    rw [hdelivered]
    rcases List.mem_append.mp hi with hi | hi
    · exact List.mem_append_left _ (handledItems_subset start before i hi)
    · rw [List.mem_singleton.mp hi]
      exact List.mem_append_right _ List.mem_cons_self
  have hbefore : IdsIdentify (deliveredItems before) := hids.subset (by
    intro i hi
    rw [hdelivered]
    exact List.mem_append_left _ hi)
  exact delivery_sound draw ((receipted_empty hempty).run before hbefore) (hids.subset hsub)
    (fun i hi j hj => hkeys i (hsub i hi) j (hsub j hj))

def plainCrm : Crm Unit := ⟨fun _ _ => (), fun _ _ _ _ _ => (), fun _ _ _ _ _ _ => ()⟩

def emptyClient : ClientDb Unit :=
  ⟨.empty (), Table.empty, Table.empty, ⟨none, none⟩⟩

def sampleApply : ApplyDraw := ⟨"2026-01-02T00:00:00.000Z", uuidOf "9"⟩

def settingChange (id key value : String) : OfflineQueueItem :=
  queued id "settings.update" (.obj [("key", .str key), ("value", .str value)])
    "2026-01-01T00:00:00.000Z" (some "term-B")

theorem redelivered_setting_applied_once :
    ((applications plainCrm emptyClient
        [.deliver (settingChange (uuidOf "1") "store.name" "Warung") sampleApply,
          .deliver (settingChange (uuidOf "2") "store.name" "Warung") sampleApply]).map
      businessEffect).Nodup ∧
      ∀ before item draw after,
        [.deliver (settingChange (uuidOf "1") "store.name" "Warung") sampleApply,
          .deliver (settingChange (uuidOf "2") "store.name" "Warung") sampleApply] =
          before ++ .deliver item draw :: after →
        DeliverySound plainCrm emptyClient before item draw :=
  remote_effects_exactly_once plainCrm emptyClient _ rfl (by decide) (by decide)

theorem second_setting_skipped :
    (applyRemoteAtomicFull plainCrm sampleApply (settingChange (uuidOf "2") "store.name" "Toko")
        ((pullMachine plainCrm).run emptyClient
          [.deliver (settingChange (uuidOf "1") "store.name" "Warung") sampleApply])).2 =
        .ok .default ∧
      ¬ DeliverySound plainCrm emptyClient
        [.deliver (settingChange (uuidOf "1") "store.name" "Warung") sampleApply]
        (settingChange (uuidOf "2") "store.name" "Toko") sampleApply := by
  have hskip : (applyRemoteAtomicFull plainCrm sampleApply
      (settingChange (uuidOf "2") "store.name" "Toko")
      ((pullMachine plainCrm).run emptyClient
        [.deliver (settingChange (uuidOf "1") "store.name" "Warung") sampleApply])).2 =
      .ok .default := by
    rfl
  refine ⟨hskip, ?_⟩
  intro hsound
  have hcovered := (hsound.skipped .default hskip rfl).2
  revert hcovered
  decide

end Run

end OzPos
