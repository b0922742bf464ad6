import OzPos.Commerce.PromotionPaths

namespace OzPos

theorem checkNonNegative_ok {field what : String} {n : Int} {u : Unit}
    (h : checkNonNegative field what n = .ok u) : 0 ≤ n := by
  unfold checkNonNegative at h
  by_cases hneg : n < 0
  · rw [if_pos hneg] at h
    cases h
  · exact Int.not_lt.mp hneg

theorem validateSaleLines_sane {lines : List SaleLine} {u : Unit}
    (h : validateSaleLines lines = .ok u) : ∀ line ∈ lines, Promotion.Sane line := by
  induction lines with
  | nil =>
    intro line hline
    cases hline
  | cons first rest ih =>
    obtain ⟨a, hfirst, hrest⟩ := Except.of_bind h
    obtain ⟨b, hqty, hfirst⟩ := Except.of_bind hfirst
    obtain ⟨c, htotal, hfirst⟩ := Except.of_bind hfirst
    intro line hline
    rcases List.mem_cons.mp hline with hhead | htail
    · rw [hhead]
      exact ⟨checkNonNegative_ok hqty, checkNonNegative_ok htotal⟩
    · exact ih hrest line htail

namespace PromotionDb

/-- A sale in memory and the stored pending one: the same total, the same lines in some order. -/
structure Mirrors (sale : PricedSale) (db : PromotionDb) : Prop where
  row : ∃ row, db.sales.find? sale.id = some row ∧ row.status = "pending" ∧
    row.totalMinor = sale.totalMinor
  lines : (db.saleLines.rows.filter (fun line => line.saleId = sale.id)).Perm sale.lines

variable {db : PromotionDb} {sale : PricedSale}

theorem Mirrors.getSale (h : Mirrors sale db) :
    ∃ stored, db.getSale sale.id = some stored ∧ stored.id = sale.id ∧
      stored.totalMinor = sale.totalMinor ∧ stored.lines.Perm sale.lines := by
  obtain ⟨row, hrow, hstatus, htotal⟩ := h.row
  have hstored : db.getSale sale.id = some ⟨row.id, row.totalMinor, row.currency,
      KeysetPage.ordered SaleLine.linePosition
        (db.saleLines.rows.filter (fun line => line.saleId = sale.id))⟩ := by
    rw [PromotionDb.getSale, hrow]
    rfl
  have hid : row.id = sale.id := Table.find?_key hrow
  exact ⟨_, hstored, hid, htotal, (List.perm_insertionSort _ _).trans h.lines⟩

variable (cfg : PromotionSettings)

theorem computeCheckoutPromotion_eq (now : Int)
    (mint : String → String) (db : PromotionDb) (promotionId : String)
    (hfits : FitsI64 sale.totalMinor) :
    computeCheckoutPromotion cfg now mint db promotionId sale =
      match db.promotions.find? promotionId with
      | none => .error (.core (.notFound "promotion" promotionId))
      | some promo =>
        (promo.computeDiscount cfg now sale).map (fun discount =>
          ({ sale with totalMinor := sale.totalMinor - discount },
            promo.application cfg now (mint promotionId) sale discount)) := by
  unfold computeCheckoutPromotion
  cases db.promotions.find? promotionId with
  | none => rfl
  | some promo =>
    simp only
    cases hdiscount : promo.computeDiscount cfg now sale with
    | error e => rfl
    | ok discount =>
      have hbounds := Promotion.computeDiscount_bounds hdiscount
      have hremaining : checkedI64 (sale.totalMinor - discount) =
          some (sale.totalMinor - discount) := by
        rw [checkedI64_eq_some_iff]
        obtain ⟨hlow, hhigh⟩ := hfits
        omega
      simp [Except.bind, Except.map, hremaining]

theorem Mirrors.apply_eq (h : Mirrors sale db) (hsane : ∀ line ∈ sale.lines, Promotion.Sane line)
    (cfg : PromotionSettings) (now : Int) (promotionId id : String) :
    ∃ stored, stored.id = sale.id ∧
      db.applyPromotionToSale cfg ⟨sale.id, promotionId, now, id⟩ =
        match db.promotions.find? promotionId with
        | none => .error (.core (.notFound "promotion" promotionId))
        | some promo =>
          (promo.computeDiscount cfg now sale).bind (fun discount =>
            db.commitApplication (promo.application cfg now id stored discount)) := by
  obtain ⟨stored, hstored, hid, htotal, hlines⟩ := h.getSale
  have hsame (promo : Promotion) :
      promo.computeDiscount cfg now stored = promo.computeDiscount cfg now sale :=
    Promotion.computeDiscount_perm cfg promo now htotal hlines
      (fun line hline => hsane line (hlines.mem_iff.mp hline))
  refine ⟨stored, hid, ?_⟩
  unfold applyPromotionToSale prepareApplication
  cases db.promotions.find? promotionId with
  | none => rfl
  | some promo =>
    simp only [hstored, hsame]
    cases promo.computeDiscount cfg now sale with
    | error e => rfl
    | ok discount => rfl

/-- The stored sale after a call that follows the checkout's step. -/
structure Follows (db : PromotionDb) (app : PromotionApplication) (reduced : PricedSale)
    (next : PromotionDb) : Prop where
  mirrors : Mirrors reduced next
  promotions : next.promotions = db.promotions
  inserted : db.applications.insert? app = some next.applications

theorem Mirrors.commits (h : Mirrors sale db) (app : PromotionApplication)
    (hsale : app.saleId = sale.id) (hcovered : app.discountMinor ≤ sale.totalMinor)
    (hpromo : (db.promotions.find? app.promotionId).isSome)
    (hfresh : db.applications.find? app.id = none)
    (hunapplied : app.promotionId ∉ (db.recorded sale.id).map Prod.fst) :
    ∃ next, db.commitApplication app = .ok next ∧
      Follows db app { sale with totalMinor := sale.totalMinor - app.discountMinor } next := by
  obtain ⟨row, hrow, hstatus, htotal⟩ := h.row
  have hinsert : (db.applications.insert? app).isSome :=
    (Table.insert?_isSome_iff db.applications app).mpr hfresh
  obtain ⟨applications, hinsert⟩ := Option.isSome_iff_exists.mp hinsert
  have happlied : db.applied app.saleId app.promotionId = false := by
    rw [hsale]
    exact Bool.eq_false_iff.mpr (fun htrue => hunapplied ((applied_iff db _ _).mp htrue))
  refine ⟨_, (commitApplication_ok_iff db _ app).mpr ⟨happlied,
    ⟨row, hsale ▸ hrow, hstatus, htotal ▸ hcovered⟩, hpromo, applications, hinsert, rfl⟩, ?_⟩
  constructor
  · constructor
    · refine ⟨row.reduced app, ?_, hstatus, by simp [PricedSaleRow.reduced, htotal]⟩
      rw [find?_reduced, hrow, Option.map_some, hsale, if_pos rfl]
    · exact h.lines
  · rfl
  · exact hinsert

variable (saleId : String)

/-- A checkout's answer, and that of the calls in turn from a database `db`. -/
def Agree (db : PromotionDb) :
    Except PromotionError (PricedSale × List PromotionApplication) →
      Except PromotionError PromotionDb → Prop
  | .error e, inTurn => inTurn = .error e
  | .ok (promoted, apps), inTurn => ∃ next, inTurn = .ok next ∧
      next.payable saleId = some promoted.totalMinor ∧
      next.recorded saleId = db.recorded saleId ++
        apps.map (fun a => (a.promotionId, a.discountMinor))

theorem Mirrors.payable (h : Mirrors sale db) : db.payable sale.id = some sale.totalMinor := by
  obtain ⟨row, hrow, hstatus, htotal⟩ := h.row
  simp [PromotionDb.payable, hrow, htotal]

theorem Agree.cons {saleId : String} {db next : PromotionDb} {app : PromotionApplication}
    {later : Except PromotionError (PricedSale × List PromotionApplication)}
    {inTurn : Except PromotionError PromotionDb}
    (hnext : next.recorded saleId = db.recorded saleId ++ [(app.promotionId, app.discountMinor)])
    (h : Agree saleId next later inTurn) :
    Agree saleId db (later.map (fun (sale, apps) => (sale, app :: apps))) inTurn := by
  cases later with
  | error e => exact h
  | ok answer =>
    obtain ⟨last, hlast, hpayable, hrecorded⟩ := h
    refine ⟨last, hlast, hpayable, ?_⟩
    rw [hrecorded, hnext, List.append_assoc]
    rfl

theorem Mirrors.agree (now : Int) (mint : String → String)
    {mint' : String → String} (hmint : Function.Injective mint') (source : PromotionDb) (ids : List String)
    (hids : ids.Nodup) (selected : List String) (hselected : ∀ p ∈ ids, p ∉ selected) (h : Mirrors sale db)
    (hsane : ∀ line ∈ sale.lines, Promotion.Sane line) (hfits : FitsI64 sale.totalMinor)
    (hsource : db.promotions = source.promotions)
    (hfresh : ∀ p ∈ ids, db.applications.find? (mint' p) = none)
    (hunapplied : ∀ p ∈ ids, p ∉ (db.recorded sale.id).map Prod.fst) :
    Agree sale.id db (computeCheckoutPromotions cfg now mint source selected ids sale)
      (applyInTurn cfg now mint' sale.id ids db) := by
  induction ids generalizing selected sale db with
  | nil => exact ⟨db, rfl, h.payable, by simp⟩
  | cons p rest ih =>
    obtain ⟨hp, hrest⟩ := List.nodup_cons.mp hids
    obtain ⟨stored, hid, happly⟩ := h.apply_eq hsane cfg now p (mint' p)
    simp only [computeCheckoutPromotions, applyInTurn, Except.foldAll,
      if_neg (hselected p List.mem_cons_self),
      computeCheckoutPromotion_eq cfg now mint source p hfits, happly, hsource]
    cases hpromo : source.promotions.find? p with
    | none => exact rfl
    | some promo =>
      simp only
      cases hdiscount : promo.computeDiscount cfg now sale with
      | error e => exact rfl
      | ok discount =>
        have hbounds := Promotion.computeDiscount_bounds hdiscount
        have hkey : promo.id = p := Table.find?_key hpromo
        obtain ⟨next, hnext, hfollows⟩ := h.commits
          (promo.application cfg now (mint' p) stored discount) hid hbounds.2
          (by simp [Promotion.application, hkey, hsource, hpromo])
          (hfresh p List.mem_cons_self)
          (by simpa [Promotion.application, hkey] using hunapplied p List.mem_cons_self)
        have hrecorded : next.recorded sale.id = db.recorded sale.id ++ [(p, discount)] := by
          rw [recorded_append (Table.insert?_rows hfollows.inserted) sale.id]
          simp [Promotion.application, hid, hkey]
        have hlater := ih hrest (p :: selected)
          (fun q hq => by
            simp only [List.mem_cons, not_or]
            exact ⟨fun heq => hp (heq ▸ hq), hselected q (List.mem_cons_of_mem p hq)⟩)
          hfollows.mirrors hsane
          (by
            obtain ⟨hlow, hhigh⟩ := hfits
            simp only [FitsI64, Promotion.application]
            omega)
          (hfollows.promotions.trans hsource)
          (fun q hq => by
            have hne : mint' p ≠ mint' q := fun heq => hp (hmint heq ▸ hq)
            rw [Table.find?_insert? hfollows.inserted]
            exact (if_neg hne).trans (hfresh q (List.mem_cons_of_mem p hq)))
          (fun q hq => by
            simp only [hrecorded, List.map_append, List.map_cons, List.map_nil, List.mem_append,
              List.mem_singleton, not_or]
            exact ⟨hunapplied q (List.mem_cons_of_mem p hq), fun heq => hp (heq ▸ hq)⟩)
        simp only [Except.bind, Except.map, hnext]
        apply Agree.cons _ hlater
        rw [hrecorded]
        simp [Promotion.application, hkey]

variable {mint : String → String}

theorem computeCheckoutPromotions_apps {cfg : PromotionSettings} {now : Int} {source : PromotionDb}
    (ids : List String) (selected : List String)
    {promoted : PricedSale} {apps : List PromotionApplication}
    (h : computeCheckoutPromotions cfg now mint source selected ids sale = .ok (promoted, apps)) :
    apps.map PromotionApplication.promotionId = ids ∧
      ∀ app ∈ apps, app.saleId = sale.id ∧ app.id = mint app.promotionId ∧
        (source.promotions.find? app.promotionId).isSome := by
  induction ids generalizing selected sale promoted apps with
  | nil =>
    cases h
    exact ⟨rfl, fun app happ => nomatch happ⟩
  | cons p rest ih =>
    unfold computeCheckoutPromotions at h
    split at h
    · cases h
    · obtain ⟨⟨reduced, first⟩, hfirst, hlater⟩ := Except.of_bind h
      obtain ⟨⟨last, later⟩, hrest, hpair⟩ := Except.of_map hlater
      cases hpair
      unfold computeCheckoutPromotion at hfirst
      split at hfirst
      · cases hfirst
      · rename_i promo hpromo
        obtain ⟨discount, hdiscount, hfirst⟩ := Except.of_bind hfirst
        split at hfirst
        · cases hfirst
        · cases hfirst
          have hkey : promo.id = p := Table.find?_key hpromo
          obtain ⟨hids, happs⟩ := ih (p :: selected) hrest
          constructor
          · rw [List.map_cons, hids]
            exact congrArg (· :: rest) hkey
          · intro app happ
            rcases List.mem_cons.mp happ with hhead | htail
            · rw [hhead]
              exact ⟨rfl, congrArg mint hkey.symm, by simp [Promotion.application, hkey, hpromo]⟩
            · exact happs app htail

theorem persistCheckoutApplications_ok (hmint : Function.Injective mint)
    (apps : List PromotionApplication) (db : PromotionDb)
    (hsale : (db.sales.find? saleId).isSome)
    (hids : (apps.map PromotionApplication.promotionId).Nodup)
    (happs : ∀ app ∈ apps, app.saleId = saleId ∧ app.id = mint app.promotionId ∧
      (db.promotions.find? app.promotionId).isSome)
    (hfresh : ∀ app ∈ apps, db.applications.find? app.id = none)
    (hunapplied : ∀ app ∈ apps, app.promotionId ∉ (db.recorded saleId).map Prod.fst) :
    ∃ next, persistCheckoutApplications saleId apps db = .ok next ∧ next.sales = db.sales ∧
      next.recorded saleId = db.recorded saleId ++
        apps.map (fun a => (a.promotionId, a.discountMinor)) := by
  induction apps generalizing db with
  | nil => exact ⟨db, rfl, rfl, by simp⟩
  | cons app rest ih =>
    obtain ⟨hp, hrest⟩ := List.nodup_cons.mp hids
    obtain ⟨hown, hid, hpromo⟩ := happs app List.mem_cons_self
    have hinsert : (db.applications.insert? app).isSome :=
      (Table.insert?_isSome_iff db.applications app).mpr (hfresh app List.mem_cons_self)
    obtain ⟨applications, hinsert⟩ := Option.isSome_iff_exists.mp hinsert
    have happlied : db.applied app.saleId app.promotionId = false := by
      rw [hown]
      exact Bool.eq_false_iff.mpr
        (fun htrue => hunapplied app List.mem_cons_self ((applied_iff db _ _).mp htrue))
    have hstep : persistCheckoutApplication saleId db app = .ok { db with applications } := by
      have hrecord := (insertApplication_ok_iff db _ app).mpr
        ⟨hpromo, hown ▸ hsale, applications, hinsert, rfl⟩
      simp [persistCheckoutApplication, hown ▸ happlied, hown, hrecord]
    have hrecorded : ({ db with applications } : PromotionDb).recorded saleId =
        db.recorded saleId ++ [(app.promotionId, app.discountMinor)] := by
      rw [recorded_append (Table.insert?_rows hinsert) saleId, if_pos hown]
    have hnot (other : PromotionApplication) (hother : other ∈ rest) :
        app.promotionId ≠ other.promotionId := by
      intro heq
      exact hp (heq ▸ List.mem_map_of_mem hother)
    obtain ⟨next, hnext, hsales, hall⟩ := ih { db with applications } hsale hrest
      (fun other hother => happs other (List.mem_cons_of_mem app hother))
      (fun other hother => by
        have hne : app.id ≠ other.id := by
          rw [hid, (happs other (List.mem_cons_of_mem app hother)).2.1]
          exact fun heq => hnot other hother (hmint heq)
        rw [Table.find?_insert? hinsert, if_neg hne]
        exact hfresh other (List.mem_cons_of_mem app hother))
      (fun other hother => by
        rw [hrecorded]
        simp only [List.map_append, List.map_cons, List.map_nil, List.mem_append,
          List.mem_singleton, not_or]
        exact ⟨hunapplied other (List.mem_cons_of_mem app hother),
          (hnot other hother).symm⟩)
    refine ⟨next, ?_, hsales, ?_⟩
    · unfold persistCheckoutApplications at hnext ⊢
      simp only [Except.foldAll, hstep]
      exact hnext
    · rw [hall, hrecorded, List.append_assoc]
      rfl

theorem insertSaleLine_rows {sales : Table String PricedSaleRow PricedSaleRow.id}
    {lines next : Table String SaleLine SaleLine.id} {line : SaleLine}
    (h : insertSaleLine sales lines line = .ok next) : next.rows = lines.rows ++ [line] := by
  unfold insertSaleLine at h
  split at h
  · cases h
  · split at h
    · cases h
    · split at h
      · cases h
      · split at h
        · cases h
        · rename_i inserted hinsert
          cases h
          exact Table.insert?_rows hinsert

theorem insertSaleLines_rows {sales : Table String PricedSaleRow PricedSaleRow.id}
    (added : List SaleLine) {lines next : Table String SaleLine SaleLine.id}
    (h : Except.foldAll (insertSaleLine sales) added lines = .ok next) :
    next.rows = lines.rows ++ added := by
  induction added generalizing lines with
  | nil =>
    cases h
    simp
  | cons line rest ih =>
    obtain ⟨mid, hmid, hrest⟩ := Except.of_bind h
    rw [ih hrest, insertSaleLine_rows hmid, List.append_assoc]
    rfl

variable {stored : PromotionDb}

theorem insertSaleWithLines_ok {row : PricedSaleRow} {lines : List SaleLine}
    (h : db.insertSaleWithLines row lines = .ok stored) :
    db.sales.find? row.id = none ∧
      ∃ sales saleLines, db.sales.insert? row = some sales ∧
        Except.foldAll (insertSaleLine sales) lines db.saleLines = .ok saleLines ∧
        stored = { db with sales, saleLines } := by
  unfold insertSaleWithLines at h
  split at h
  · cases h
  · rename_i sales hsales
    obtain ⟨saleLines, hlines, rfl⟩ := Except.of_map h
    refine ⟨?_, sales, saleLines, hsales, hlines, rfl⟩
    rw [← Table.insert?_isSome_iff, hsales]
    rfl

theorem insertSaleWithLines_other {row : PricedSaleRow} {lines : List SaleLine}
    (h : db.insertSaleWithLines row lines = .ok stored)
    (other : PricedSaleRow) (hid : other.id = row.id) :
    ∃ sales, db.sales.insert? other = some sales ∧
      db.insertSaleWithLines other lines = .ok { stored with sales } := by
  obtain ⟨hnew, sales, saleLines, hsales, hlines, rfl⟩ := insertSaleWithLines_ok h
  have hinsert : (db.sales.insert? other).isSome :=
    (Table.insert?_isSome_iff db.sales other).mpr (hid ▸ hnew)
  obtain ⟨others, hothers⟩ := Option.isSome_iff_exists.mp hinsert
  have hsame (id : String) : (others.find? id).isNone = (sales.find? id).isNone := by
    rw [Table.find?_insert? hothers, Table.find?_insert? hsales, hid]
    split <;> rfl
  have hstep : insertSaleLine others = insertSaleLine sales := by
    funext table line
    simp only [insertSaleLine, hsame]
  refine ⟨others, hothers, ?_⟩
  simp only [insertSaleWithLines, hothers, hstep, hlines]
  rfl

/-- What storing a pending sale of its own lines leaves in place of it. -/
structure Stored (sale : ImportedSale) (db stored : PromotionDb) : Prop where
  mirrors : Mirrors sale.priced stored
  sane : ∀ line ∈ sale.lines, Promotion.Sane line
  total_nonneg : 0 ≤ sale.totalMinor
  inserted : db.insertSaleWithLines sale.pricedRow sale.lines = .ok stored
  promotions : stored.promotions = db.promotions
  applications : stored.applications = db.applications
  unrecorded : stored.recorded sale.id = []

theorem createSale_stored {sale : ImportedSale}
    (hown : ∀ line ∈ sale.lines, line.saleId = sale.id) (hpending : sale.status = .pending)
    (hdb : Referenced db) (h : db.createSale sale = .ok stored) : Stored sale db stored := by
  unfold createSale at h
  split at h
  · cases h
  · rename_i u hvalid
    split at h
    · cases h
    · obtain ⟨a, hlines, hvalid⟩ := Except.of_bind hvalid
      obtain ⟨b, htotal, hvalid⟩ := Except.of_bind hvalid
      obtain ⟨hnew, sales, saleLines, hsales, hrows, rfl⟩ := insertSaleWithLines_ok h
      have hnew : db.sales.find? sale.id = none := hnew
      have hnone (id : String) (hid : (db.sales.find? id).isSome) : id ≠ sale.id := by
        intro heq
        rw [heq, hnew] at hid
        cases hid
      constructor
      · constructor
        · refine ⟨sale.pricedRow, ?_, ?_, rfl⟩
          · rw [Table.find?_insert? hsales]
            exact if_pos rfl
          · simp [ImportedSale.pricedRow, hpending, SaleStatus.asStoredStr]
        · have hold : db.saleLines.rows.filter (fun line => line.saleId = sale.id) = [] := by
            rw [List.filter_eq_nil_iff]
            intro line hline hid
            exact hnone line.saleId (hdb.lines line hline) (by simpa using hid)
          have hadded : sale.lines.filter (fun line => line.saleId = sale.id) = sale.lines := by
            rw [List.filter_eq_self]
            intro line hline
            simpa using hown line hline
          show (saleLines.rows.filter (fun line => line.saleId = sale.id)).Perm sale.lines
          rw [insertSaleLines_rows sale.lines hrows, List.filter_append, hold, hadded]
          exact List.Perm.refl sale.lines
      · exact validateSaleLines_sane hlines
      · exact checkNonNegative_ok htotal
      · exact h
      · rfl
      · rfl
      · unfold recorded
        rw [List.map_eq_nil_iff, List.filter_eq_nil_iff]
        intro app happ hid
        exact hnone app.saleId (hdb.applications app happ) (by simpa using hid)

def settlement (db : PromotionDb) : List (String × Int) × Option Int :=
  (db.recorded saleId, db.payable saleId)

theorem conserved_congr {initial : Int} {saleId : String} {other : PromotionDb}
    (h : db.settlement saleId = other.settlement saleId) (hdb : Conserved initial saleId db) :
    Conserved initial saleId other := by
  have hrecorded : db.recorded saleId = other.recorded saleId := congrArg Prod.fst h
  have hpayable : db.payable saleId = other.payable saleId := congrArg Prod.snd h
  unfold Conserved at hdb ⊢
  rw [← hrecorded, ← hpayable]
  exact hdb

theorem Stored.paths_agree {sale : ImportedSale}
    (h : Stored sale db stored) (cfg : PromotionSettings) (now : Int)
    {mint' : String → String} (hmint : Minted db mint) (hmint' : Minted db mint')
    (hfits : FitsI64 sale.totalMinor) {ids : List String} (hids : ids.Nodup) :
    (checkoutWithPromotions cfg now mint ids sale db).map (settlement sale.id) =
      (applyInTurn cfg now mint' sale.id ids stored).map (settlement sale.id) := by
  have hagree := h.mirrors.agree cfg now mint hmint'.injective db ids hids []
    (fun p hp => List.not_mem_nil) h.sane hfits h.promotions
    (fun p hp => by rw [h.applications]; exact hmint'.fresh p)
    (fun p hp => by
      have hnone : stored.recorded sale.priced.id = [] := h.unrecorded
      rw [hnone]
      exact List.not_mem_nil)
  unfold checkoutWithPromotions
  cases hcompute : computeCheckoutPromotions cfg now mint db [] ids sale.priced with
  | error e =>
    rw [hcompute] at hagree
    have hfail : applyInTurn cfg now mint' sale.id ids stored = .error e := hagree
    rw [hfail]
    rfl
  | ok answer =>
    obtain ⟨promoted, apps⟩ := answer
    rw [hcompute] at hagree
    obtain ⟨next, hnext, hpayable, hrecorded⟩ := hagree
    have hnext : applyInTurn cfg now mint' sale.id ids stored = .ok next := hnext
    obtain ⟨hpromotions, happs⟩ := computeCheckoutPromotions_apps ids [] hcompute
    obtain ⟨sales, hsales, hinsert⟩ := insertSaleWithLines_other h.inserted
      ⟨sale.id, "pending", promoted.totalMinor, sale.currency, 1, cfg.stamp now⟩ rfl
    have hrow : sales.find? sale.id =
        some ⟨sale.id, "pending", promoted.totalMinor, sale.currency, 1, cfg.stamp now⟩ := by
      rw [Table.find?_insert? hsales]
      exact if_pos rfl
    have hempty : ({ stored with sales } : PromotionDb).recorded sale.id = [] := h.unrecorded
    obtain ⟨last, hlast, hlastSales, hlastRecorded⟩ :=
      persistCheckoutApplications_ok sale.id hmint.injective apps
        { stored with sales } (by simp [hrow]) (hpromotions ▸ hids)
        (fun app happ => by
          obtain ⟨hown, hid, hpromo⟩ := happs app happ
          exact ⟨hown, hid, h.promotions ▸ hpromo⟩)
        (fun app happ => by
          obtain ⟨hown, hid, hpromo⟩ := happs app happ
          rw [hid, h.applications]
          exact hmint.fresh app.promotionId)
        (fun app happ => by
          rw [hempty]
          exact List.not_mem_nil)
    simp only [Except.bind, hinsert, hlast, hnext, Except.map, settlement]
    have hleft : last.payable sale.id = some promoted.totalMinor := by
      simp [payable, hlastSales, hrow]
    have hstored : stored.recorded sale.priced.id = [] := h.unrecorded
    have hright : next.recorded sale.id = apps.map (fun a => (a.promotionId, a.discountMinor)) := by
      have hall := hrecorded
      rw [hstored, List.nil_append] at hall
      exact hall
    have hpaid : next.payable sale.id = some promoted.totalMinor := hpayable
    rw [hlastRecorded, hempty, List.nil_append, hleft, hright, hpaid]

theorem Stored.conserved {sale : ImportedSale}
    (h : Stored sale db stored) : Conserved sale.totalMinor sale.id stored := by
  refine ⟨sale.totalMinor, h.mirrors.payable, ?_, h.total_nonneg⟩
  rw [h.unrecorded]
  simp

theorem applyPromotionToSale_conserved {cfg : PromotionSettings} {call : ApplyCall}
    {next : PromotionDb} (h : db.applyPromotionToSale cfg call = .ok next) {initial : Int}
    {saleId : String} (hdb : Conserved initial saleId db) : Conserved initial saleId next := by
  obtain ⟨app, happ, hcommit⟩ := Except.of_bind h
  exact (committed hcommit).conserved hdb

theorem applyInTurn_applyEach (cfg : PromotionSettings) (now : Int) (mint : String → String)
    (saleId : String) (ids : List String) (db : PromotionDb) :
    applyInTurn cfg now mint saleId (applyEach cfg now mint saleId ids db).1 db =
      .ok (applyEach cfg now mint saleId ids db).2 := by
  induction ids generalizing db with
  | nil => rfl
  | cons p rest ih =>
    unfold applyEach
    cases hcall : db.applyPromotionToSale cfg ⟨saleId, p, now, mint p⟩ with
    | error e => exact ih db
    | ok next =>
      have hlater := ih next
      unfold applyInTurn at hlater ⊢
      simp only [Except.foldAll, hcall]
      exact hlater

theorem applyEach_sublist (cfg : PromotionSettings) (now : Int) (mint : String → String)
    (saleId : String) (ids : List String) (db : PromotionDb) :
    (applyEach cfg now mint saleId ids db).1.Sublist ids := by
  induction ids generalizing db with
  | nil => exact List.Sublist.refl []
  | cons p rest ih =>
    unfold applyEach
    cases db.applyPromotionToSale cfg ⟨saleId, p, now, mint p⟩ with
    | error e => exact (ih db).cons p
    | ok next => exact (ih next).cons_cons p

end PromotionDb

open PromotionDb in
/-- Promotions taken at checkout, in turn on the stored sale, or in any interleaving of calls:
the first two record the same discounts and leave the same total, refusals included, and all
of them account for what the total lost. -/
theorem promotions_path_independent (cfg : PromotionSettings) (now : Int)
    {mint mint' : String → String} {db stored : PromotionDb} {sale : ImportedSale}
    {ids : List String} (hids : ids.Nodup) (hpending : sale.status = .pending)
    (hown : ∀ line ∈ sale.lines, line.saleId = sale.id) (hfits : FitsI64 sale.totalMinor)
    (hdb : Referenced db) (hmint : PromotionDb.Minted db mint)
    (hmint' : PromotionDb.Minted db mint') (hstored : db.createSale sale = .ok stored) :
    (checkoutWithPromotions cfg now mint ids sale db).map (settlement sale.id) =
        (applyInTurn cfg now mint' sale.id ids stored).map (settlement sale.id) ∧
      (checkoutWithPromotions cfg now mint (applyEach cfg now mint' sale.id ids stored).1 sale
          db).map (settlement sale.id) =
        .ok (settlement sale.id (applyEach cfg now mint' sale.id ids stored).2) ∧
      (∀ last, checkoutWithPromotions cfg now mint ids sale db = .ok last →
        Conserved sale.totalMinor sale.id last) ∧
      (∀ last, applyInTurn cfg now mint' sale.id ids stored = .ok last →
        Conserved sale.totalMinor sale.id last) ∧
      ∀ events : List (CallEvent ApplyCall (Option CoreError)),
        Conserved sale.totalMinor sale.id
            ((applyCalls cfg).machine.run (.start stored) events).shared ∧
          Once sale.id ((applyCalls cfg).machine.run (.start stored) events).shared := by
  have h := createSale_stored hown hpending hdb hstored
  have hturn (last : PromotionDb)
      (hlast : applyInTurn cfg now mint' sale.id ids stored = .ok last) :
      Conserved sale.totalMinor sale.id last :=
    Except.foldAll_invariant
      (fun db p next hconserved hcall => applyPromotionToSale_conserved hcall hconserved)
      ids h.conserved hlast
  refine ⟨h.paths_agree cfg now hmint hmint' hfits hids, ?_, ?_, hturn, ?_⟩
  · have hagree := h.paths_agree cfg now hmint hmint' hfits
      (hids.sublist (applyEach_sublist cfg now mint' sale.id ids stored))
    rw [hagree, applyInTurn_applyEach]
    rfl
  · intro last hlast
    have hagree := h.paths_agree cfg now hmint hmint' hfits hids
    rw [hlast] at hagree
    obtain ⟨other, hother, hsame⟩ := Except.of_map hagree.symm
    exact conserved_congr hsame (hturn other hother)
  · intro events
    have honce : Once sale.id stored := by
      unfold Once
      rw [h.unrecorded]
      exact List.nodup_nil
    exact (applyCalls_disciplined cfg sale.totalMinor sale.id).always ⟨h.conserved, honce⟩ events

/-- A tenth off the drinks from New Year on, and five off any order of twenty. -/
def newYearShop : PromotionDb where
  promotions := ⟨[
    ⟨"tenth", "New Year", "percentage", 10, none, none, none, none,
      some "2026-01-01T00:00:00Z", none, 0, some "drinks", true⟩,
    ⟨"five", "Voucher", "fixed_amount", 500, none, none, none, none, none, none, 2000, none,
      true⟩], by decide⟩
  sales := .empty
  saleLines := .empty
  applications := .empty

def newYearSettings : PromotionSettings where
  instant := fun text =>
    if text = "2026-01-01T00:00:00Z" then .ok 1767225600000000000
    else .error "premature end of input"
  stamp := fun _ => "2026-01-02T00:00:00.000Z"
  categoryOf := fun sku => if sku = "tea" then some "drinks" else none

def newYearSale : ImportedSale where
  id := "s1"
  totalMinor := 3000
  currency := "USD"
  customerId := none
  userId := none
  baseTotalMinor := none
  createdAt := "2026-01-02T00:00:00.000Z"
  lines := [⟨"l1", "s1", "tea", 2, 1000, 2000, 0, none, 1⟩,
    ⟨"l2", "s1", "cake", 1, 1000, 1000, 0, none, 2⟩]
  lines_fit := by
    simp only [FitsI64]
    decide
  status := .pending
  lineCount := 2
  subtotalMinor := 3000
  taxTotalMinor := 0
  tenderedMinor := none
  updatedAt := "2026-01-02T00:00:00.000Z"

theorem minted_of_append (stem : String) {db : PromotionDb} (h : db.applications.rows = []) :
    db.Minted (fun p => stem ++ p) where
  injective := by
    intro p q hpq
    simpa using hpq
  fresh := by
    intro p
    simp [Table.find?, h]

open PromotionDb in
theorem tea_promotions_path_independent :
    ∃ stored, newYearShop.createSale newYearSale = .ok stored ∧
      (checkoutWithPromotions newYearSettings 1767312000000000000 ("a" ++ ·) ["tenth", "five"] newYearSale
          newYearShop).map (settlement "s1") =
        (applyInTurn newYearSettings 1767312000000000000 ("b" ++ ·) "s1" ["tenth", "five"]
          stored).map (settlement "s1") ∧
      (checkoutWithPromotions newYearSettings 1767312000000000000 ("a" ++ ·) ["tenth", "five"] newYearSale
          newYearShop).map (settlement "s1") =
        .ok ([("tenth", 200), ("five", 500)], some 2300) := by
  obtain ⟨stored, hstored⟩ := (Except.isOk_iff (newYearShop.createSale newYearSale)).mp (by decide +kernel)
  have hdb : newYearShop.Referenced := ⟨by decide, by decide⟩
  have hids : ["tenth", "five"].Nodup := by decide
  have hfits : FitsI64 newYearSale.totalMinor := by
    simp only [FitsI64]
    decide
  have h := promotions_path_independent newYearSettings 1767312000000000000 hids rfl (by decide)
    hfits hdb (minted_of_append "a" rfl) (minted_of_append "b" rfl) hstored
  exact ⟨stored, hstored, h.1, by decide +kernel⟩

end OzPos
