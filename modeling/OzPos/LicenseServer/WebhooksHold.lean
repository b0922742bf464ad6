import OzPos.LicenseServer.Webhooks

namespace OzPos

def LicenseDb.billing (db : LicenseDb) : List (String × String × SubscriptionStatus × Int) :=
  db.subscriptions.rows.map (fun s => (s.id, s.tierKey, s.status, s.expiresAt))

def SubscriptionRecord.Agrees (s s' : SubscriptionRecord) : Prop :=
  s.tierKey = s'.tierKey ∧ s.status = s'.status ∧ s.expiresAt = s'.expiresAt

theorem first_mem {ρ : Type} {lookup : Lookup} {ids : ρ → ProviderIds} {rows : List ρ} {r : ρ}
    (h : lookup.first ids rows = some r) : r ∈ rows := by
  obtain ⟨p, -, hp⟩ := List.exists_of_findSome?_eq_some h
  exact List.mem_of_find?_eq_some hp

variable {db : LicenseDb} {s : SubscriptionRecord}

theorem foundSubscription_mem {lookup : Lookup} {d : WebhookDraw}
    (h : foundSubscription lookup d db = some s) : s ∈ db.subscriptions.rows := by
  unfold foundSubscription at h
  cases hfails : d.subLookupFails with
  | true => simp [hfails] at h
  | false =>
    rw [hfails] at h
    exact first_mem h

theorem billing_updateSubscription (h : s ∈ db.subscriptions.rows)
    (f : SubscriptionRecord → SubscriptionRecord) (hf : ∀ s, (f s).id = s.id) :
    (db.updateSubscription s.id f hf).billing = db.billing ↔ (f s).Agrees s := by
  have hrows : (db.updateSubscription s.id f hf).subscriptions.rows =
      db.subscriptions.rows.map (fun r => if r.id = s.id then f r else r) := rfl
  unfold LicenseDb.billing
  rw [hrows, List.map_map, List.map_inj_left]
  constructor
  · intro hall
    have hs := hall s h
    simp only [Function.comp_apply, if_true, Prod.mk.injEq] at hs
    exact hs.2
  · intro hagrees r hr
    by_cases hid : r.id = s.id
    · have heq : r = s := List.inj_on_of_nodup_map db.subscriptions.unique hr h hid
      subst heq
      obtain ⟨htier, hstatus, hexpires⟩ := hagrees
      simp [hf, htier, hstatus, hexpires]
    · simp [hid]

theorem billing_insertSubscription {db' : LicenseDb}
    (h : db.insertSubscription s = some db') : db'.billing ≠ db.billing := by
  unfold LicenseDb.insertSubscription at h
  split at h
  · cases h
  · obtain ⟨t, hinsert, rfl⟩ := Option.map_eq_some_iff.mp h
    intro hsame
    have hlength := congrArg List.length hsame
    simp [LicenseDb.billing, Table.insert?_rows hinsert] at hlength

theorem insert_eq_none_iff {κ ρ τ : Type} [DecidableEq κ] {key : ρ → κ} (t : Table κ ρ key) (r : ρ)
    (clashes : ρ → Bool) (f : Table κ ρ key → τ) :
    (if t.rows.any clashes then none else (t.insert? r).map f) = none ↔
      ∃ s ∈ t.rows, clashes s = true ∨ key s = key r := by
  split
  · rename_i hclash
    obtain ⟨s, hs, hsr⟩ := List.any_eq_true.mp hclash
    simp only [true_iff]
    exact ⟨s, hs, .inl hsr⟩
  · rename_i hclash
    rw [Option.map_eq_none_iff, Table.insert?_eq_none_iff]
    constructor
    · rintro ⟨s, hs⟩
      exact ⟨s, ((Table.find?_eq_some_iff _ _ _).mp hs).1, .inr (Table.find?_key hs)⟩
    · rintro ⟨s, hs, hsr | hkey⟩
      · exact absurd (List.any_eq_true.mpr ⟨s, hs, hsr⟩) hclash
      · exact ⟨s, (Table.find?_eq_some_iff _ _ _).mpr ⟨hs, hkey⟩⟩

theorem insertKey_some {db' : LicenseDb} {k : LicenseKeyRecord} (h : db.insertKey k = some db') :
    (∀ r ∈ db.keys.rows, r.ids.clashes k.ids = false) ∧
      ∃ keys, db.keys.insert? k = some keys ∧ db' = { db with keys := keys } := by
  unfold LicenseDb.insertKey at h
  split at h
  · cases h
  · rename_i hclash
    obtain ⟨keys, hinsert, heq⟩ := Option.map_eq_some_iff.mp h
    refine ⟨?_, keys, hinsert, heq.symm⟩
    intro r hr
    rw [← Bool.not_eq_true]
    intro hrk
    exact hclash (List.any_eq_true.mpr ⟨r, hr, hrk⟩)

section

variable {mintIds : ProviderIds} {relink : ProviderIds → ProviderIds} {lookup : Lookup}
  {g : WebhookGrant} {d : WebhookDraw} {now : Int} {db : LicenseDb}

/-- A key is refreshed, or minted where none is found. -/
inductive KeySaved (mintIds : ProviderIds) (relink : ProviderIds → ProviderIds) (lookup : Lookup)
    (g : WebhookGrant) (d : WebhookDraw) (db : LicenseDb) : LicenseDb → Prop where
  | refreshed {k : LicenseKeyRecord} (hfound : foundKey lookup d db = some k) :
      KeySaved mintIds relink lookup g d db (db.updateKey k.key (g.refresh relink) (fun _ => rfl))
  | minted {db' : LicenseDb} (hfound : foundKey lookup d db = none)
      (hinsert : db.insertKey (g.mint d.newKey mintIds) = some db') :
      KeySaved mintIds relink lookup g d db db'

variable {db' : LicenseDb}

theorem saveKey_some {bundle : String}
    (h : saveKey mintIds relink lookup g d db = some (db', bundle)) :
    d.keySaveFails = false ∧ KeySaved mintIds relink lookup g d db db' := by
  unfold saveKey at h
  cases hfails : d.keySaveFails with
  | true => simp [hfails] at h
  | false =>
    refine ⟨rfl, ?_⟩
    simp only [hfails, Bool.false_eq_true, if_false] at h
    cases hfound : foundKey lookup d db with
    | none =>
      simp only [hfound, Option.map_eq_some_iff] at h
      obtain ⟨db1, hinsert, heq⟩ := h
      cases heq
      exact .minted hfound hinsert
    | some k =>
      simp only [hfound] at h
      cases h
      exact .refreshed hfound

theorem KeySaved.subscriptions (h : KeySaved mintIds relink lookup g d db db') :
    db'.subscriptions = db.subscriptions := by
  cases h with
  | refreshed _ => rfl
  | minted _ hinsert =>
    obtain ⟨-, keys, -, rfl⟩ := insertKey_some hinsert
    rfl

theorem billing_eq_of_subscriptions
    (h : db'.subscriptions = db.subscriptions) : db'.billing = db.billing := by
  unfold LicenseDb.billing
  rw [h]

theorem foundSubscription_congr (h : db'.subscriptions = db.subscriptions) :
    foundSubscription lookup d db' = foundSubscription lookup d db := by
  unfold foundSubscription
  rw [h]

theorem billing_saveSubscription (h : saveSubscription mintIds lookup g d now db = some db') :
    db'.billing = db.billing ↔
      ∃ s, foundSubscription lookup d db = some s ∧ (g.enter now s).Agrees s := by
  unfold saveSubscription at h
  split at h
  · cases h
  · cases hfound : foundSubscription lookup d db with
    | none =>
      simp only [hfound] at h
      constructor
      · intro hsame
        exact absurd hsame (billing_insertSubscription h)
      · rintro ⟨s, hs, -⟩
        cases hs
    | some s =>
      simp only [hfound, Option.some.injEq] at h
      subst h
      have hbilling := billing_updateSubscription (foundSubscription_mem hfound) (g.enter now)
        (fun _ => rfl)
      refine hbilling.trans ⟨fun hagrees => ⟨s, rfl, hagrees⟩, ?_⟩
      rintro ⟨s', hs', hagrees⟩
      cases hs'
      exact hagrees

theorem enter_agrees_iff :
    (g.enter now s).Agrees s ↔
      s.tierKey = g.tierKey ∧ s.status = .active ∧ s.expiresAt = g.expiresAt := by
  unfold SubscriptionRecord.Agrees
  constructor
  · rintro ⟨htier, hstatus, hexpires⟩
    exact ⟨htier.symm, hstatus.symm, hexpires.symm⟩
  · rintro ⟨htier, hstatus, hexpires⟩
    exact ⟨htier.symm, hstatus.symm, hexpires.symm⟩

theorem billing_provision :
    (provision mintIds relink lookup g d now db).1.billing = db.billing ↔
      ((provision mintIds relink lookup g d now db).2 = true →
        ∃ s, foundSubscription lookup d db = some s ∧
          s.tierKey = g.tierKey ∧ s.status = .active ∧ s.expiresAt = g.expiresAt) := by
  unfold provision
  cases hkey : saveKey mintIds relink lookup g d db with
  | none => simp
  | some saved =>
    obtain ⟨db1, bundle⟩ := saved
    have hsubscriptions := (saveKey_some hkey).2.subscriptions
    simp only
    cases hsub : saveSubscription mintIds lookup { g with bundle := bundle } d now db1 with
    | none => simp [billing_eq_of_subscriptions hsubscriptions]
    | some db2 =>
      have hbilling := billing_saveSubscription hsub
      rw [foundSubscription_congr hsubscriptions, billing_eq_of_subscriptions hsubscriptions]
        at hbilling
      simp only [forall_const]
      rw [hbilling]
      simp only [enter_agrees_iff]

/-- No key can be saved: none is found, and a new one would clash. -/
def KeyStops (mintIds : ProviderIds) (lookup : Lookup) (d : WebhookDraw) (db : LicenseDb) : Prop :=
  d.keySaveFails = true ∨
    (foundKey lookup d db = none ∧
      ∃ k ∈ db.keys.rows, k.ids.clashes mintIds = true ∨ k.key = d.newKey)

def SubscriptionStops (mintIds : ProviderIds) (lookup : Lookup) (d : WebhookDraw)
    (db : LicenseDb) : Prop :=
  d.signFails = true ∨ d.subSaveFails = true ∨
    (foundSubscription lookup d db = none ∧
      ∃ s ∈ db.subscriptions.rows, s.ids.clashes mintIds = true ∨ s.id = d.newId)

theorem insertKey_eq_none_iff {k : LicenseKeyRecord} :
    db.insertKey k = none ↔ ∃ r ∈ db.keys.rows, r.ids.clashes k.ids = true ∨ r.key = k.key :=
  insert_eq_none_iff db.keys k _ _

theorem insertSubscription_eq_none_iff :
    db.insertSubscription s = none ↔
      ∃ r ∈ db.subscriptions.rows, r.ids.clashes s.ids = true ∨ r.id = s.id :=
  insert_eq_none_iff db.subscriptions s _ _

theorem saveKey_eq_none_iff :
    saveKey mintIds relink lookup g d db = none ↔ KeyStops mintIds lookup d db := by
  unfold saveKey KeyStops
  cases d.keySaveFails with
  | true => simp
  | false =>
    cases hfound : foundKey lookup d db with
    | some k => simp
    | none =>
      simp only [Bool.false_eq_true, if_false, Option.map_eq_none_iff, false_or, true_and]
      exact insertKey_eq_none_iff

theorem saveSubscription_eq_none_iff :
    saveSubscription mintIds lookup g d now db = none ↔ SubscriptionStops mintIds lookup d db := by
  unfold saveSubscription SubscriptionStops
  cases d.signFails with
  | true => simp
  | false =>
    cases d.subSaveFails with
    | true => simp
    | false =>
      cases hfound : foundSubscription lookup d db with
      | some s => simp
      | none =>
        simp only [Bool.or_self, Bool.false_eq_true, if_false, false_or, true_and]
        exact insertSubscription_eq_none_iff

theorem provision_done_iff :
    (provision mintIds relink lookup g d now db).2 = true ↔
      ¬ KeyStops mintIds lookup d db ∧ ¬ SubscriptionStops mintIds lookup d db := by
  unfold provision
  cases hkey : saveKey mintIds relink lookup g d db with
  | none => simp [saveKey_eq_none_iff.mp hkey]
  | some saved =>
    obtain ⟨db1, bundle⟩ := saved
    have hkeyStops : saveKey mintIds relink lookup g d db = none ↔ KeyStops mintIds lookup d db :=
      saveKey_eq_none_iff
    have hnot : ¬ KeyStops mintIds lookup d db := by
      rw [← hkeyStops, hkey]
      simp
    have hsubscriptions := (saveKey_some hkey).2.subscriptions
    have hstops : SubscriptionStops mintIds lookup d db1 ↔
        SubscriptionStops mintIds lookup d db := by
      unfold SubscriptionStops
      rw [foundSubscription_congr hsubscriptions, hsubscriptions]
    have hsave : saveSubscription mintIds lookup { g with bundle := bundle } d now db1 = none ↔
        SubscriptionStops mintIds lookup d db1 := saveSubscription_eq_none_iff
    simp only [hnot, not_false_eq_true, true_and]
    rw [← hstops, ← hsave]
    cases saveSubscription mintIds lookup { g with bundle := bundle } d now db1 with
    | none => simp
    | some db2 => simp

theorem keys_saveSubscription
    (h : saveSubscription mintIds lookup g d now db = some db') : db'.keys = db.keys := by
  unfold saveSubscription at h
  split at h
  · cases h
  · cases hfound : foundSubscription lookup d db with
    | none =>
      simp only [hfound] at h
      unfold LicenseDb.insertSubscription at h
      split at h
      · cases h
      · obtain ⟨subscriptions, -, rfl⟩ := Option.map_eq_some_iff.mp h
        rfl
    | some s =>
      simp only [hfound, Option.some.injEq] at h
      rw [← h]
      rfl

theorem keys_provision :
    (provision mintIds relink lookup g d now db).1.keys =
      ((saveKey mintIds relink lookup g d db).map (fun saved => saved.1.keys)).getD db.keys := by
  unfold provision
  cases hkey : saveKey mintIds relink lookup g d db with
  | none => rfl
  | some saved =>
    obtain ⟨db1, bundle⟩ := saved
    simp only [Option.map_some, Option.getD_some]
    cases hsub : saveSubscription mintIds lookup { g with bundle := bundle } d now db1 with
    | none => rfl
    | some db2 => exact keys_saveSubscription hsub

def LicenseDb.keyIds (db : LicenseDb) : List ProviderIds := db.keys.rows.map LicenseKeyRecord.ids

theorem keyIds_updateKey (key : String) (f : LicenseKeyRecord → LicenseKeyRecord)
    (hf : ∀ k, (f k).key = k.key) (hids : ∀ k, (f k).ids = k.ids) :
    (db.updateKey key f hf).keyIds = db.keyIds := by
  have hrows : (db.updateKey key f hf).keys.rows =
      db.keys.rows.map (fun r => if r.key = key then f r else r) := rfl
  unfold LicenseDb.keyIds
  rw [hrows, List.map_map]
  apply List.map_congr_left
  intro k _
  by_cases hk : k.key = key
  · simp [hk, hids]
  · simp [hk]

theorem length_updateKey (key : String) (f : LicenseKeyRecord → LicenseKeyRecord)
    (hf : ∀ k, (f k).key = k.key) : (db.updateKey key f hf).keyIds.length = db.keyIds.length := by
  have hrows : (db.updateKey key f hf).keys.rows =
      db.keys.rows.map (fun r => if r.key = key then f r else r) := rfl
  simp [LicenseDb.keyIds, hrows]

theorem keyIds_insertKey {k : LicenseKeyRecord} (h : db.insertKey k = some db') :
    db'.keyIds = db.keyIds ++ [k.ids] := by
  obtain ⟨-, keys, hinsert, rfl⟩ := insertKey_some h
  simp [LicenseDb.keyIds, Table.insert?_rows hinsert]

theorem keyIds_provision_of_none (h : saveKey mintIds relink lookup g d db = none) :
    (provision mintIds relink lookup g d now db).1.keyIds = db.keyIds := by
  unfold LicenseDb.keyIds
  rw [keys_provision, h]
  rfl

theorem keyIds_provision_of_some {bundle : String}
    (h : saveKey mintIds relink lookup g d db = some (db', bundle)) :
    (provision mintIds relink lookup g d now db).1.keyIds = db'.keyIds := by
  unfold LicenseDb.keyIds
  rw [keys_provision, h]
  rfl

theorem keyIds_minted (hsaves : ¬ KeyStops mintIds lookup d db)
    (hnone : foundKey lookup d db = none) :
    (provision mintIds relink lookup g d now db).1.keyIds = db.keyIds ++ [mintIds] ∧
      ∀ ids ∈ db.keyIds, ids.clashes mintIds = false := by
  cases hkey : saveKey mintIds relink lookup g d db with
  | none => exact absurd (saveKey_eq_none_iff.mp hkey) hsaves
  | some saved =>
    obtain ⟨db1, bundle⟩ := saved
    rw [keyIds_provision_of_some hkey]
    cases (saveKey_some hkey).2 with
    | refreshed hfound =>
      rw [hnone] at hfound
      cases hfound
    | minted _ hinsert =>
      refine ⟨keyIds_insertKey hinsert, ?_⟩
      intro ids hids
      obtain ⟨k, hk, rfl⟩ := List.mem_map.mp hids
      exact (insertKey_some hinsert).1 k hk

theorem keyIds_kept (hkept : KeyStops mintIds lookup d db ∨ (foundKey lookup d db).isSome) :
    (provision mintIds relink lookup g d now db).1.keyIds.length = db.keyIds.length ∧
      ((∀ ids, relink ids = ids) →
        (provision mintIds relink lookup g d now db).1.keyIds = db.keyIds) := by
  cases hkey : saveKey mintIds relink lookup g d db with
  | none =>
    rw [keyIds_provision_of_none hkey]
    exact ⟨rfl, fun _ => rfl⟩
  | some saved =>
    obtain ⟨db1, bundle⟩ := saved
    rw [keyIds_provision_of_some hkey]
    cases (saveKey_some hkey).2 with
    | refreshed hfound =>
      refine ⟨length_updateKey _ _ _, ?_⟩
      intro hrelink
      exact keyIds_updateKey _ _ _ (fun k => hrelink k.ids)
    | minted hnone _ =>
      exfalso
      rcases hkept with hstops | hsome
      · have hnotSaved : saveKey mintIds relink lookup g d db = none :=
          saveKey_eq_none_iff.mpr hstops
        rw [hkey] at hnotSaved
        cases hnotSaved
      · rw [hnone] at hsome
        cases hsome

variable {sync : SubscriptionRecord → LicenseKeyRecord → LicenseKeyRecord}
  {change : SubscriptionRecord → SubscriptionRecord}

theorem billing_amend {hsync : ∀ s k, (sync s k).key = k.key}
    {hchange : ∀ s, (change s).id = s.id} :
    (amend lookup sync hsync change hchange d db).1.billing = db.billing ↔
      ((amend lookup sync hsync change hchange d db).2 = true →
        ∀ s, foundSubscription lookup d db = some s → (change s).Agrees s) := by
  unfold amend
  cases hfound : foundSubscription lookup d db with
  | none => simp
  | some s =>
    have hmem := foundSubscription_mem hfound
    dsimp only
    cases hkey : foundKey lookup d db with
    | none =>
      dsimp only
      split
      · simp
      · have hbilling := billing_updateSubscription hmem change hchange
        simpa using hbilling
    | some k =>
      have hsame : (db.updateKey k.key (sync s) (hsync s)).billing = db.billing := rfl
      dsimp only
      split
      · simp [hsame]
      · have hbilling : ((db.updateKey k.key (sync s) (hsync s)).updateSubscription s.id change
            hchange).billing = db.billing ↔ (change s).Agrees s := by
          rw [← hsame]
          exact billing_updateSubscription hmem change hchange
        simpa using hbilling

theorem keyIds_amend {hsync : ∀ s k, (sync s k).key = k.key} {hchange : ∀ s, (change s).id = s.id}
    (hids : ∀ s k, (sync s k).ids = k.ids) :
    (amend lookup sync hsync change hchange d db).1.keyIds = db.keyIds := by
  unfold amend
  cases hfound : foundSubscription lookup d db with
  | none => rfl
  | some s =>
    dsimp only
    cases hkey : foundKey lookup d db with
    | none =>
      dsimp only
      split <;> rfl
    | some k =>
      have hupdate : (db.updateKey k.key (sync s) (hsync s)).keyIds = db.keyIds :=
        keyIds_updateKey k.key (sync s) (hsync s) (hids s)
      dsimp only
      split
      · exact hupdate
      · exact hupdate

theorem amend_done_iff {hsync : ∀ s k, (sync s k).key = k.key}
    {hchange : ∀ s, (change s).id = s.id} :
    (amend lookup sync hsync change hchange d db).2 = true ↔
      foundSubscription lookup d db = none ∨ (¬ d.signFails = true ∧ ¬ d.subSaveFails = true) := by
  unfold amend
  cases hfound : foundSubscription lookup d db with
  | none => simp
  | some s =>
    dsimp only
    cases d.signFails with
    | true => simp
    | false =>
      cases d.subSaveFails with
      | true => simp
      | false => simp

end

end OzPos
