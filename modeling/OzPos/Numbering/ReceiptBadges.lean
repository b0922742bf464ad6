import OzPos.Library.Outcome
import OzPos.Library.Roster
import OzPos.Library.Run
import OzPos.Numbering.ReceiptCode

namespace OzPos

namespace Badges

def spent (tenantId : String) (b : Badges) : Int := (b.nextValue tenantId).getD 1 - 1

def roster (b : Badges) : Roster String := .of b.asked

def Registered (tenantId entityId : String) (b : Badges) : Prop :=
  ∃ row, b.rows.find? entityId = some row ∧ row.tenantId = tenantId

end Badges

/-- Every entity wears its number in the register, and no more indexes are spent. -/
structure InOrder (tenantId : String) (b : Badges) : Prop where
  spent : b.spent tenantId = b.roster.ids.length
  worn : ∀ row ∈ b.rows.rows, row.tenantId = tenantId → ∀ i, row.indexId = some i →
    ∃ n : Nat, i = n + 1 ∧ b.roster.Holds row.id n
  bare : ∀ row ∈ b.rows.rows, row.tenantId = tenantId → row.indexId = none → row.id ∉ b.asked

section Ensure

variable {kind : EntityIndexKind} {tenantId entityId : String} {b b' : Badges} {i : Int}

theorem indexOf_eq_some (h : b.indexOf tenantId entityId = some i) :
    ∃ row ∈ b.rows.rows, row.id = entityId ∧ row.tenantId = tenantId ∧ row.indexId = some i := by
  obtain ⟨row, hfilter, hindex⟩ := Option.bind_eq_some_iff.mp h
  obtain ⟨hfind, htenant⟩ := Option.filter_eq_some_iff.mp hfilter
  obtain ⟨hrow, hid⟩ := (Table.find?_eq_some_iff _ _ _).mp hfind
  exact ⟨row, hrow, hid, by simpa using htenant, hindex⟩

theorem indexOf_of_row {row : BadgeRow} (hfind : b.rows.find? entityId = some row)
    (htenant : row.tenantId = tenantId) : b.indexOf tenantId entityId = row.indexId := by
  simp [Badges.indexOf, hfind, htenant, Option.filter]

theorem writeIndex_ok (h : b.writeIndex kind entityId i = .ok b') :
    b'.nextValue = b.nextValue ∧ b'.asked = b.asked ∧
      ∀ row' ∈ b'.rows.rows, ∃ row ∈ b.rows.rows, row'.id = row.id ∧
        row'.tenantId = row.tenantId ∧
        row'.indexId = if row.id = entityId then some i else row.indexId := by
  unfold Badges.writeIndex at h
  split at h
  · rename_i hnone
    cases h
    refine ⟨rfl, rfl, ?_⟩
    intro row hrow
    have hne := (Table.find?_eq_none_iff _ _).mp hnone row hrow
    exact ⟨row, hrow, rfl, rfl, by rw [if_neg hne]⟩
  · split at h
    · cases h
    · cases h
      refine ⟨rfl, rfl, ?_⟩
      intro row' hrow'
      obtain ⟨row, hrow, rfl⟩ := (Table.mem_update _ entityId
        (fun r : BadgeRow => { r with indexId := some i }) (fun _ => rfl) _).mp hrow'
      refine ⟨row, hrow, ?_⟩
      by_cases hid : row.id = entityId
      · simp [hid]
      · simp [hid]

theorem ensure_ok (h : b.ensureEntityIndex kind tenantId entityId = .ok (b', i)) :
    b'.asked = b.asked ++ [entityId] ∧
      ((b.indexOf tenantId entityId = some i ∧ b'.rows = b.rows ∧ b'.nextValue = b.nextValue) ∨
        (b.indexOf tenantId entityId = none ∧ i = b.spent tenantId + 1 ∧
          b'.spent tenantId = b.spent tenantId + 1 ∧
          ∀ row' ∈ b'.rows.rows, ∃ row ∈ b.rows.rows, row'.id = row.id ∧
            row'.tenantId = row.tenantId ∧
            row'.indexId = if row.id = entityId then some i else row.indexId)) := by
  unfold Badges.ensureEntityIndex at h
  split at h
  · rename_i index hindex
    cases h
    exact ⟨rfl, .inl ⟨hindex, rfl, rfl⟩⟩
  · rename_i hnone
    obtain ⟨⟨b₁, index⟩, hallocate, h⟩ := Except.of_bind h
    obtain ⟨b₂, hwrite, hanswer⟩ := Except.of_map h
    cases hanswer
    simp only [Badges.allocateEntityIndex] at hallocate
    split at hallocate
    · cases hallocate
    · cases hallocate
      obtain ⟨hnext, hasked, hrows⟩ := writeIndex_ok hwrite
      refine ⟨by rw [hasked], .inr ⟨hnone, ?_, ?_, hrows⟩⟩
      · unfold Badges.spent
        cases b.nextValue tenantId with
        | none => rfl
        | some n => simp
      · simp only [Badges.spent, hnext, Function.update_self]
        cases b.nextValue tenantId with
        | none => rfl
        | some n => simp

theorem roster_of_asked (h : b'.asked = b.asked ++ [entityId]) :
    b'.roster = b.roster.enrol entityId := by
  rw [Badges.roster, h, Roster.of_append]
  rfl

theorem InOrder.ensured (h : InOrder tenantId b)
    (hensure : b.ensureEntityIndex kind tenantId entityId = .ok (b', i))
    (hknown : b.Registered tenantId entityId ∨ entityId ∉ b.asked) :
    InOrder tenantId b' ∧ ∃ n : Nat, i = n + 1 ∧ b'.roster.Holds entityId n := by
  obtain ⟨hasked, hcase⟩ := ensure_ok hensure
  have hroster := roster_of_asked hasked
  rcases hcase with ⟨hindex, hrows, hnext⟩ | ⟨hindex, hvalue, hspent, hrows⟩
  · obtain ⟨row, hrow, rfl, htenant, hworn⟩ := indexOf_eq_some hindex
    obtain ⟨n, hn, hholds⟩ := h.worn row hrow htenant i hworn
    have hsame : b'.roster = b.roster := by
      rw [hroster]
      exact Roster.enrol_member hholds.mem
    refine ⟨⟨?_, ?_, ?_⟩, n, hn, by rw [hsame]; exact hholds⟩
    · rw [hsame, ← h.spent, Badges.spent, hnext, Badges.spent]
    · rw [hsame, hrows]
      exact h.worn
    · intro other hother htenant' hbare
      rw [hrows] at hother
      have hmem : row.id ∈ b.asked := (Roster.mem_of _ _).mp hholds.mem
      have hout := h.bare other hother htenant' hbare
      rw [hasked, List.mem_append, List.mem_singleton, not_or]
      refine ⟨hout, ?_⟩
      intro heq
      rw [heq] at hout
      exact hout hmem
  · have hnew : entityId ∉ b.asked := by
      rcases hknown with ⟨row, hfind, htenant⟩ | hnew
      · obtain ⟨hrow, hid⟩ := (Table.find?_eq_some_iff _ _ _).mp hfind
        rw [indexOf_of_row hfind htenant] at hindex
        have hout := h.bare row hrow htenant hindex
        rw [hid] at hout
        exact hout
      · exact hnew
    have hnewcomer : entityId ∉ b.roster.ids := fun hmem => hnew ((Roster.mem_of _ _).mp hmem)
    have hnumber : b'.roster.Holds entityId b.roster.ids.length := by
      rw [hroster]
      exact Roster.holds_enrol_new hnewcomer
    refine ⟨⟨?_, ?_, ?_⟩, b.roster.ids.length, by rw [hvalue, h.spent], hnumber⟩
    · rw [hspent, h.spent, hroster, Roster.ids_enrol_new hnewcomer, List.length_append]
      rfl
    · intro row' hrow' htenant j hj
      obtain ⟨row, hrow, hid, hsame, hindex'⟩ := hrows row' hrow'
      rw [hindex'] at hj
      rw [hid]
      split at hj
      · rename_i heq
        cases hj
        exact ⟨b.roster.ids.length, by rw [hvalue, h.spent], by rw [heq]; exact hnumber⟩
      · obtain ⟨n, hn, hholds⟩ := h.worn row hrow (hsame ▸ htenant) j hj
        exact ⟨n, hn, by rw [hroster]; exact hholds.enrol entityId⟩
    · intro row' hrow' htenant hbare
      obtain ⟨row, hrow, hid, hsame, hindex'⟩ := hrows row' hrow'
      rw [hindex'] at hbare
      split at hbare
      · cases hbare
      · rename_i hne
        rw [hid, hasked, List.mem_append, List.mem_singleton, not_or]
        exact ⟨h.bare row hrow (hsame ▸ htenant) hbare, hne⟩

theorem InOrder.overspent (h : InOrder tenantId b)
    (hensure : b.ensureEntityIndex kind tenantId entityId = .ok (b', i))
    (hunknown : ¬ b.Registered tenantId entityId) (hagain : entityId ∈ b.asked) :
    (b'.asked.dedup.length : Int) < b'.spent tenantId := by
  obtain ⟨hasked, hcase⟩ := ensure_ok hensure
  rcases hcase with ⟨hindex, _⟩ | ⟨_, _, hspent, _⟩
  · obtain ⟨row, hrow, hid, htenant, _⟩ := indexOf_eq_some hindex
    exact absurd ⟨row, (Table.find?_eq_some_iff _ _ _).mpr ⟨hrow, hid⟩, htenant⟩ hunknown
  · have hsame : b'.roster = b.roster := by
      rw [roster_of_asked hasked]
      exact Roster.enrol_member ((Roster.mem_of _ _).mpr hagain)
    have hcount := Roster.length_of b'.asked
    have hkept : (Roster.of b'.asked).ids.length = b.roster.ids.length :=
      congrArg (fun r => r.ids.length) hsame
    rw [hspent, h.spent]
    omega

end Ensure

def MintCall.asks (c : MintCall) : EntityIndexKind → Option String
  | .user => if c.staffUserId = "" then none else some c.staffUserId
  | .location => some c.locationId
  | .terminal => c.terminalId

/-- What an accepted mint does: each kind is asked at most once, and what is printed is what was
answered. -/
structure Minted (tenantId : String) (c : MintCall) (db db' : ReceiptDb)
    (index : EntityIndexKind → Int) (new : List PrintedBadge) : Prop where
  asked : ∀ kind id, c.asks kind = some id →
    (db.badges kind).ensureEntityIndex kind tenantId id = .ok (db'.badges kind, index kind)
  others : ∀ kind, c.asks kind = none → db'.badges kind = db.badges kind
  printed : db'.printed = db.printed ++ new
  shown : ∀ p ∈ new, c.asks p.kind = some p.entityId ∧ p.index = index p.kind

section Mint

variable {clock : ReceiptClock} {tenantId : String} {db db' : ReceiptDb} {c : MintCall}

theorem ensureAt_ok {kind : EntityIndexKind} {entityId : String} {i : Int}
    (h : db.ensure kind tenantId entityId = .ok (db', i)) :
    ∃ b, (db.badges kind).ensureEntityIndex kind tenantId entityId = .ok (b, i) ∧
      db' = { db with badges := Function.update db.badges kind b } := by
  obtain ⟨⟨b, j⟩, hensure, hanswer⟩ := Except.of_map h
  cases hanswer
  exact ⟨b, hensure, rfl⟩

theorem claimReceiptSequence_ok {terminalIdx year : String} {seq : Int}
    (h : db.claimReceiptSequence tenantId terminalIdx year = .ok (db', seq)) :
    db'.badges = db.badges ∧ db'.printed = db.printed := by
  simp only [ReceiptDb.claimReceiptSequence] at h
  split at h
  · cases h
  · cases h
    exact ⟨rfl, rfl⟩

theorem asks_user (c : MintCall) :
    c.asks .user = if c.staffUserId = "" then none else some c.staffUserId := rfl

theorem staffIndex_ok {i : Int} (h : db.staffIndex tenantId c.staffUserId = .ok (db', i)) :
    (∀ kind, kind ≠ .user → db'.badges kind = db.badges kind) ∧ db'.printed = db.printed ∧
      (c.asks .user = none → db'.badges .user = db.badges .user) ∧
      ∀ id, c.asks .user = some id →
        (db.badges .user).ensureEntityIndex .user tenantId id = .ok (db'.badges .user, i) := by
  unfold ReceiptDb.staffIndex at h
  rw [asks_user]
  split at h
  · rename_i hempty
    cases h
    rw [if_pos hempty]
    refine ⟨fun _ _ => rfl, rfl, fun _ => rfl, ?_⟩
    intro id hid
    cases hid
  · rename_i hstaff
    obtain ⟨b, hensure, rfl⟩ := ensureAt_ok h
    rw [if_neg hstaff]
    refine ⟨?_, rfl, ?_, ?_⟩
    · intro kind hkind
      exact Function.update_of_ne hkind _ _
    · intro hnone
      cases hnone
    · intro id hid
      obtain rfl := Option.some.inj hid
      simp only [Function.update_self]
      exact hensure

theorem mint_ok {answer : Option String × Option String}
    (h : db.mintReceiptCode clock tenantId c.locationId c.terminalId c.staffUserId c.nowUtc =
      .ok (db', answer)) : ∃ index new, Minted tenantId c db db' index new := by
  obtain ⟨⟨db₁, staffIdx⟩, hstaff, h⟩ := Except.of_bind h
  obtain ⟨hkept, hprinted, hempty, hasked⟩ := staffIndex_ok hstaff
  obtain ⟨⟨db₂, locIdx⟩, hlocation, h⟩ := Except.of_bind h
  obtain ⟨bl, hensureLocation, rfl⟩ := ensureAt_ok hlocation
  rw [hkept .location (by decide)] at hensureLocation
  cases hterm : c.terminalId with
  | none =>
    simp only [hterm] at h
    cases h
    refine ⟨fun kind => if kind = .user then staffIdx else locIdx, [], ?_, ?_, by simp [hprinted],
      by simp⟩
    · intro kind id hid
      cases kind with
      | user => exact hasked id hid
      | location =>
        obtain rfl := Option.some.inj hid
        simpa using hensureLocation
      | terminal =>
        rw [MintCall.asks, hterm] at hid
        cases hid
    · intro kind hid
      cases kind with
      | user => exact hempty hid
      | location => cases hid
      | terminal => exact hkept .terminal (by decide)
  | some term =>
    simp only [hterm] at h
    obtain ⟨⟨db₃, termIdx⟩, hterminal, h⟩ := Except.of_bind h
    obtain ⟨bt, hensureTerminal, rfl⟩ := ensureAt_ok hterminal
    obtain ⟨⟨yymmdd, year⟩, _, h⟩ := Except.of_bind h
    obtain ⟨⟨db₄, seq⟩, hclaim, h⟩ := Except.of_map h
    obtain ⟨hbadges, hsame⟩ := claimReceiptSequence_ok hclaim
    cases h
    have hother : Function.update db₁.badges EntityIndexKind.location bl .terminal =
        db.badges .terminal := by
      rw [Function.update_of_ne (by decide), hkept .terminal (by decide)]
    simp only [hother] at hensureTerminal
    refine ⟨fun kind => match kind with
        | .user => staffIdx | .location => locIdx | .terminal => termIdx,
      ReceiptDb.badgesOf c.staffUserId c.locationId term staffIdx locIdx termIdx, ?_, ?_, ?_, ?_⟩
    · intro kind id hid
      simp only [hbadges]
      cases kind with
      | user => exact hasked id hid
      | location =>
        obtain rfl := Option.some.inj hid
        simpa using hensureLocation
      | terminal =>
        rw [MintCall.asks, hterm] at hid
        obtain rfl := Option.some.inj hid
        simpa using hensureTerminal
    · intro kind hid
      simp only [hbadges]
      cases kind with
      | user => exact hempty hid
      | location => cases hid
      | terminal =>
        rw [MintCall.asks, hterm] at hid
        cases hid
    · simp only [hsame, hprinted]
    · intro p hp
      unfold ReceiptDb.badgesOf at hp
      split at hp
      · simp only [List.nil_append, List.mem_cons, List.not_mem_nil, or_false] at hp
        rcases hp with rfl | rfl
        · exact ⟨rfl, rfl⟩
        · exact ⟨hterm, rfl⟩
      · rename_i hne
        simp only [List.cons_append, List.nil_append, List.mem_cons, List.not_mem_nil,
          or_false] at hp
        rcases hp with rfl | rfl | rfl
        · exact ⟨if_neg hne, rfl⟩
        · exact ⟨rfl, rfl⟩
        · exact ⟨hterm, rfl⟩

end Mint

/-- One index for an entity and one entity for an index, on all receipts; and for a kind no more
indexes than there are entities that asked. -/
structure BadgesStable (tenantId : String) (db : ReceiptDb) : Prop where
  same : ∀ p ∈ db.printed, ∀ q ∈ db.printed, p.kind = q.kind →
    (p.entityId = q.entityId ↔ p.index = q.index)
  bounded : ∀ kind, (db.badges kind).spent tenantId ≤ ((db.badges kind).asked.dedup.length : Int)

structure RegisterKept (tenantId : String) (db : ReceiptDb) : Prop where
  inOrder : ∀ kind, InOrder tenantId (db.badges kind)
  printed : ∀ p ∈ db.printed, ∃ n : Nat, p.index = n + 1 ∧
    (db.badges p.kind).roster.Holds p.entityId n

/-- Every entity asked for has a row of the tenant, or is asked for the first time. -/
def Recognised (tenantId : String) (c : MintCall) (db : ReceiptDb) : Prop :=
  ∀ kind id, c.asks kind = some id →
    (db.badges kind).Registered tenantId id ∨ id ∉ (db.badges kind).asked

/-- Where the mint goes through, it recognises whom it asks for. -/
def MintsKnown (clock : ReceiptClock) (tenantId : String) (db : ReceiptDb) (c : MintCall) : Prop :=
  c.commits = true →
    (db.mintReceiptCode clock tenantId c.locationId c.terminalId c.staffUserId c.nowUtc).isOk =
      true → Recognised tenantId c db

section Stable

variable {clock : ReceiptClock} {tenantId : String} {db db' : ReceiptDb} {c : MintCall}
  {index : EntityIndexKind → Int} {new : List PrintedBadge}

theorem RegisterKept.stable (h : RegisterKept tenantId db) : BadgesStable tenantId db := by
  constructor
  · intro p hp q hq hkind
    obtain ⟨n, hn, hpholds⟩ := h.printed p hp
    obtain ⟨m, hm, hqholds⟩ := h.printed q hq
    rw [← hkind] at hqholds
    rw [hpholds.same_iff hqholds, hn, hm]
    omega
  · intro kind
    rw [(h.inOrder kind).spent, Badges.roster, Roster.length_of]

theorem RegisterKept.minted (h : RegisterKept tenantId db)
    (hminted : Minted tenantId c db db' index new) (hknown : Recognised tenantId c db) :
    RegisterKept tenantId db' := by
  have hkind : ∀ kind, InOrder tenantId (db'.badges kind) ∧
      (∀ id n, (db.badges kind).roster.Holds id n → (db'.badges kind).roster.Holds id n) ∧
      ∀ id, c.asks kind = some id → ∃ n : Nat, index kind = n + 1 ∧
        (db'.badges kind).roster.Holds id n := by
    intro kind
    cases hasks : c.asks kind with
    | none =>
      rw [hminted.others kind hasks]
      exact ⟨h.inOrder kind, fun _ _ hholds => hholds, fun _ hid => by cases hid⟩
    | some id =>
      have hensure := hminted.asked kind id hasks
      obtain ⟨hinOrder, hnumber⟩ := (h.inOrder kind).ensured hensure (hknown kind id hasks)
      refine ⟨hinOrder, ?_, ?_⟩
      · intro other n hholds
        rw [roster_of_asked (ensure_ok hensure).1]
        exact hholds.enrol id
      · intro other hother
        obtain rfl := Option.some.inj hother
        exact hnumber
  refine ⟨fun kind => (hkind kind).1, ?_⟩
  intro p hp
  rw [hminted.printed, List.mem_append] at hp
  rcases hp with hp | hp
  · obtain ⟨n, hn, hholds⟩ := h.printed p hp
    exact ⟨n, hn, (hkind p.kind).2.1 _ _ hholds⟩
  · obtain ⟨hasks, hindex⟩ := hminted.shown p hp
    rw [hindex]
    exact (hkind p.kind).2.2 _ hasks

theorem RegisterKept.recognised (h : RegisterKept tenantId db)
    (hminted : Minted tenantId c db db' index new) (hstable : BadgesStable tenantId db') :
    Recognised tenantId c db := by
  intro kind id hasks
  by_contra hunknown
  obtain ⟨hunregistered, hagain⟩ := not_or.mp hunknown
  have hover := (h.inOrder kind).overspent (hminted.asked kind id hasks) hunregistered
    (not_not.mp hagain)
  have hbound := hstable.bounded kind
  omega

theorem RegisterKept.act (h : RegisterKept tenantId db) (hok : MintsKnown clock tenantId db c) :
    RegisterKept tenantId (c.act clock tenantId db) := by
  unfold MintCall.act
  split
  · rename_i hcommits
    split
    · rename_i db' answer hcall
      obtain ⟨index, new, hminted⟩ := mint_ok hcall
      exact h.minted hminted (hok hcommits (by rw [hcall]; rfl))
    · exact h
  · exact h

theorem stable_act_iff (h : RegisterKept tenantId db) :
    BadgesStable tenantId (c.act clock tenantId db) ↔ MintsKnown clock tenantId db c := by
  constructor
  · intro hstable hcommits haccepted
    cases hcall : db.mintReceiptCode clock tenantId c.locationId c.terminalId c.staffUserId
        c.nowUtc with
    | error e =>
      rw [hcall] at haccepted
      cases haccepted
    | ok answer =>
      obtain ⟨index, new, hminted⟩ := mint_ok hcall
      apply h.recognised hminted
      simpa [MintCall.act, hcommits, hcall] using hstable
  · intro hok
    exact (h.act hok).stable

end Stable

variable (clock : ReceiptClock)

def mintMachine (tenantId : String) : Machine ReceiptDb MintCall Unit :=
  ⟨fun db c => (c.act clock tenantId db, ())⟩

/-- As the migration leaves the tables: no cursor of the tenant, no index on its rows. -/
structure Unminted (tenantId : String) (db : ReceiptDb) : Prop where
  cursors : ∀ kind, (db.badges kind).nextValue tenantId = none
  rows : ∀ kind, ∀ row ∈ (db.badges kind).rows.rows, row.tenantId = tenantId → row.indexId = none
  asked : ∀ kind, (db.badges kind).asked = []
  printed : db.printed = []

theorem Unminted.kept {tenantId : String} {db : ReceiptDb} (h : Unminted tenantId db) :
    RegisterKept tenantId db := by
  constructor
  · intro kind
    refine ⟨?_, ?_, ?_⟩
    · rw [Badges.spent, h.cursors, Badges.roster, h.asked]
      rfl
    · intro row hrow htenant i hi
      rw [h.rows kind row hrow htenant] at hi
      cases hi
    · intro row _ _ _
      rw [h.asked]
      exact List.not_mem_nil
  · intro p hp
    rw [h.printed] at hp
    cases hp

/-- Badges stay stable over a run exactly if no mint asks again for an entity that the tenant has
no row for. -/
theorem badges_stable_iff {tenantId : String} {db : ReceiptDb}
    (h : Unminted tenantId db) (calls : List MintCall) :
    (mintMachine clock tenantId).Along
        (fun db c => BadgesStable tenantId (c.act clock tenantId db)) db calls ↔
      (mintMachine clock tenantId).Along (MintsKnown clock tenantId) db calls := by
  have hstep : ∀ d c, RegisterKept tenantId d → MintsKnown clock tenantId d c →
      RegisterKept tenantId ((mintMachine clock tenantId).step d c).1 :=
    fun _ _ hd hok => hd.act hok
  exact (mintMachine clock tenantId).along_iff_of_invariant hstep
    (fun _ _ hd => stable_act_iff hd) db calls h.kept

def tillClock : ReceiptClock := ⟨fun _ _ => .ok ("260926", "2026")⟩

def unmintedBadges (id tenantId : String) : Badges :=
  ⟨⟨[⟨id, tenantId, none⟩], List.nodup_singleton _⟩, fun _ => none, []⟩

def unmintedDb : ReceiptDb where
  badges := fun kind => match kind with
    | .location => unmintedBadges "loc-1" "default"
    | .terminal => unmintedBadges "till-1" "default"
    | .user => unmintedBadges "user-1" "default"
  timezones := fun _ => some "+07:00"
  counters := fun _ => none
  printed := []

theorem unmintedDb_unminted : Unminted "default" unmintedDb := by
  refine ⟨?_, ?_, ?_, rfl⟩
  · intro kind
    cases kind <;> rfl
  · intro kind row hrow _
    cases kind <;> rw [List.mem_singleton.mp hrow]
  · intro kind
    cases kind <;> rfl

def saleBy (staffUserId : String) : MintCall :=
  ⟨"loc-1", some "till-1", staffUserId, "2026-09-26T10:15:00.000Z", true⟩

theorem known_staff_stable : (mintMachine tillClock "default").Along
    (fun db c => BadgesStable "default" (c.act tillClock "default" db)) unmintedDb
      [saleBy "user-1", saleBy "user-1"] := by
  have hknown : ∀ db : ReceiptDb,
      (∀ kind, (db.badges kind).rows.rows.map (fun row => (row.id, row.tenantId)) =
        (unmintedDb.badges kind).rows.rows.map (fun row => (row.id, row.tenantId))) →
      MintsKnown tillClock "default" db (saleBy "user-1") := by
    intro db hrows _ _ kind id hasks
    have hrow : (id, "default") ∈
        (db.badges kind).rows.rows.map (fun row => (row.id, row.tenantId)) := by
      rw [hrows]
      cases kind <;> obtain rfl := Option.some.inj hasks <;> exact List.mem_singleton_self _
    obtain ⟨row, hmem, hpair⟩ := List.mem_map.mp hrow
    obtain ⟨hid, htenant⟩ := Prod.mk.inj hpair
    exact .inl ⟨row, (Table.find?_eq_some_iff _ _ _).mpr ⟨hmem, hid⟩, htenant⟩
  refine (badges_stable_iff tillClock unmintedDb_unminted _).mpr ⟨?_, ?_, trivial⟩
  · exact hknown _ (fun _ => rfl)
  · refine hknown _ ?_
    intro kind
    cases kind <;> decide +kernel

/-- Two sales by staff whose row is not in this database. -/
theorem unknown_staff_unstable : Unminted "default" unmintedDb ∧
    ((mintMachine tillClock "default").run unmintedDb [saleBy "user-9", saleBy "user-9"]).printed =
      [⟨.user, "user-9", 1⟩, ⟨.location, "loc-1", 1⟩, ⟨.terminal, "till-1", 1⟩,
        ⟨.user, "user-9", 2⟩, ⟨.location, "loc-1", 1⟩, ⟨.terminal, "till-1", 1⟩] ∧
    ¬ BadgesStable "default"
      ((mintMachine tillClock "default").run unmintedDb [saleBy "user-9", saleBy "user-9"]) := by
  have hprinted : ((mintMachine tillClock "default").run unmintedDb
      [saleBy "user-9", saleBy "user-9"]).printed =
      [⟨.user, "user-9", 1⟩, ⟨.location, "loc-1", 1⟩, ⟨.terminal, "till-1", 1⟩,
        ⟨.user, "user-9", 2⟩, ⟨.location, "loc-1", 1⟩, ⟨.terminal, "till-1", 1⟩] := by
    decide +kernel
  refine ⟨unmintedDb_unminted, hprinted, ?_⟩
  intro h
  have hsame := h.same
  rw [hprinted] at hsame
  exact absurd ((hsame ⟨.user, "user-9", 1⟩ (by decide) ⟨.user, "user-9", 2⟩ (by decide) rfl).mp rfl)
    (by decide)

end OzPos
