import OzPos.Memos.MemoLifecycle
import Mathlib.Data.List.Range

namespace OzPos

def MemoView.madeAt : MemoView → Option Int
  | .publish _ _ _ => none
  | .revise _ _ _ _ now => some now
  | .stop _ _ now => some now
  | .sweepExpired _ now => some now
  | .sweepAllExpired now => some now
  | .sweepEndedToArchived now => some now
  | .sweepExpiredArchives _ _ => none

namespace MemoStore

variable (s : MemoStore)

def revisionsOf (memoId : String) : List MemoRevision :=
  s.revisions.filter (fun r => r.memoId = memoId)

/-- The three tables agree about a memo; a draft has no revision yet. -/
structure SoundAt (s : MemoStore) (m : Memo) : Prop where
  draft : m.status = .draft → s.revisionsOf m.id = [] ∧ m.revision = 1
  numbered : m.status ≠ .draft →
    (s.revisionsOf m.id).map MemoRevision.revision = List.range' 1 m.revision
  content : m.status ≠ .draft →
    (s.revisionsOf m.id).getLast?.map (fun r => (r.title, r.body)) = some (m.title, m.body)
  received : m.status = .published → ∃ r ∈ s.recipients, r.memoId = m.id

def Sound : Prop := ∀ m ∈ s.memos.rows, s.SoundAt m

/-- A change of status alone, with the time it is made at. -/
inductive Moved : MemoView → Memo → Memo → Prop where
  | stop (memo m : Memo) (actor : String) (now : Int) :
    m.status = .published → Moved (.stop memo actor now) m (m.stopped actor now)
  | expireOf (tenantId : String) (m : Memo) (now : Int) :
    m.status = .published → Moved (.sweepExpired tenantId now) m (m.expire now)
  | expire (m : Memo) (now : Int) :
    m.status = .published → Moved (.sweepAllExpired now) m (m.expire now)
  | archive (m : Memo) (now : Int) :
    m.ended = true → Moved (.sweepEndedToArchived now) m (m.archive now)

inductive Step (view : MemoView) (s s' : MemoStore) (id : String) : Prop where
  | kept (memo : s'.memos.find? id = s.memos.find? id)
    (revisions : s'.revisionsOf id = s.revisionsOf id)
    (recipients : ∀ r ∈ s.recipients, r.memoId = id → r ∈ s'.recipients)
  | moved (m m' : Memo) (before : s.memos.find? id = some m) (after : s'.memos.find? id = some m')
    (move : Moved view m m') (revisions : s'.revisionsOf id = s.revisionsOf id)
    (recipients : ∀ r ∈ s.recipients, r.memoId = id → r ∈ s'.recipients)
  | published (m memo : Memo) (locationIds : List String) (now expiresAt : Int)
    (call : view = .publish memo locationIds now)
    (before : s.memos.find? id = some m) (draft : m.status = .draft)
    (after : s'.memos.find? id = some (m.published now expiresAt))
    (revisions : s'.revisionsOf id = s.revisionsOf id ++
      [⟨id, memo.tenantId, 1, m.title, m.body, now, memo.authorUserId⟩])
    (recipients : ∃ r ∈ s'.recipients, r.memoId = id)
  | revised (m memo : Memo) (actor title body : String) (now : Int)
    (call : view = .revise memo actor title body now)
    (before : s.memos.find? id = some m) (published : m.status = .published)
    (after : s'.memos.find? id = some (m.revised title body (m.revision + 1) now))
    (revisions : s'.revisionsOf id = s.revisionsOf id ++
      [⟨id, memo.tenantId, m.revision + 1, title, body, now, actor⟩])
    (recipients : ∀ r ∈ s.recipients, r.memoId = id → r ∈ s'.recipients)
  | deleted (m : Memo) (before : s.memos.find? id = some m) (archived : m.status = .archived)
    (after : s'.memos.find? id = none)

/-- What a call between its steps knows of the memo that it read. -/
def Knows : MemoView → Prop
  | .publish memo _ _ =>
    ∀ m, s.memos.find? memo.id = some m → m.tenantId = memo.tenantId ∧
      (m.status = .draft → m.title = memo.title ∧ m.body = memo.body)
  | .revise memo _ _ _ _ => ∀ m, s.memos.find? memo.id = some m → memo.revision ≤ m.revision
  | .stop _ _ _ => True
  | .sweepExpired _ _ => True
  | .sweepAllExpired _ => True
  | .sweepEndedToArchived _ => True
  | .sweepExpiredArchives _ _ => True

variable {s s' : MemoStore}

variable {id : String} {m : Memo}

theorem Sound.at (hs : s.Sound) (h : s.memos.find? id = some m) :
    s.SoundAt m := hs m ((s.memos.find?_eq_some_iff _ _).mp h).1

theorem SoundAt.one_le (h : s.SoundAt m) (hm : m.status ≠ .draft) : 1 ≤ m.revision := by
  have hcontent := h.content hm
  have hnumbered := h.numbered hm
  rcases Nat.eq_zero_or_pos m.revision with hzero | hpos
  · rw [hzero, List.range'_zero, List.map_eq_nil_iff] at hnumbered
    rw [hnumbered] at hcontent
    cases hcontent
  · exact hpos

theorem insertRevision_ok_iff {r : MemoRevision} :
    s.insertRevision r = .ok s' ↔
      (∀ o ∈ s.revisionsOf r.memoId, o.revision ≠ r.revision) ∧
        (s.memos.find? r.memoId).isSome ∧ s' = { s with revisions := s.revisions ++ [r] } := by
  unfold insertRevision
  have hany : s.revisions.any (fun o => o.memoId = r.memoId && o.revision = r.revision) = true ↔
      ¬ ∀ o ∈ s.revisionsOf r.memoId, o.revision ≠ r.revision := by
    simp [revisionsOf]
  by_cases hclash : ∀ o ∈ s.revisionsOf r.memoId, o.revision ≠ r.revision
  · rw [if_neg (fun h => hany.mp h hclash)]
    cases hfind : s.memos.find? r.memoId with
    | none => simp
    | some m =>
      simp only [Option.isNone_some, Bool.false_eq_true, if_false, Except.ok.injEq,
        Option.isSome_some, true_and]
      constructor
      · rintro rfl
        exact ⟨hclash, rfl⟩
      · rintro ⟨_, rfl⟩
        rfl
  · rw [if_pos (hany.mpr hclash)]
    simp [hclash]

variable (tenantId memoId : String)

theorem insertRecipients_frame (terminalIds : List String) :
    (s.insertRecipients tenantId memoId terminalIds).memos = s.memos ∧
      (s.insertRecipients tenantId memoId terminalIds).revisions = s.revisions ∧
      ∀ r ∈ s.recipients, r ∈ (s.insertRecipients tenantId memoId terminalIds).recipients := by
  induction terminalIds generalizing s with
  | nil => exact ⟨rfl, rfl, fun _ hr => hr⟩
  | cons terminalId rest ih =>
    rw [insertRecipients]
    by_cases hany : s.recipients.any
        (fun r => r.memoId = memoId && r.terminalId = terminalId) = true
    · rw [if_pos hany]
      exact ih
    · rw [if_neg hany]
      obtain ⟨hmemos, hrevisions, hrecipients⟩ :=
        ih (s := { s with recipients := s.recipients ++ [⟨memoId, tenantId, terminalId⟩] })
      exact ⟨hmemos, hrevisions, fun r hr => hrecipients r (List.mem_append_left _ hr)⟩

theorem insertRecipients_received {terminalIds : List String} (h : terminalIds.isEmpty = false) :
    ∃ r ∈ (s.insertRecipients tenantId memoId terminalIds).recipients, r.memoId = memoId := by
  cases terminalIds with
  | nil => cases h
  | cons terminalId rest =>
    rw [insertRecipients]
    by_cases hany : s.recipients.any
        (fun r => r.memoId = memoId && r.terminalId = terminalId) = true
    · rw [if_pos hany]
      obtain ⟨r, hr, hmatch⟩ := List.any_eq_true.mp hany
      simp only [Bool.and_eq_true, decide_eq_true_eq] at hmatch
      exact ⟨r, (insertRecipients_frame tenantId memoId rest).2.2 r hr, hmatch.1⟩
    · rw [if_neg hany]
      refine ⟨⟨memoId, tenantId, terminalId⟩, ?_, rfl⟩
      apply (insertRecipients_frame tenantId memoId rest).2.2
      simp

theorem find?_updateMemo (status : MemoStatus) (f : Memo → Memo)
    (hf : ∀ m, (f m).id = m.id) (id : String) :
    (s.updateMemo tenantId memoId status f hf).memos.find? id = (s.memos.find? id).map (fun m =>
      if (m.tenantId = tenantId && m.id = memoId && m.status = status) = true then f m else m) :=
  Table.find?_updateWhere s.memos _ f hf id

variable {tenantId memoId : String} {status : MemoStatus} {f : Memo → Memo}

theorem find?_updateMemo_other {hf : ∀ m, (f m).id = m.id} (h : id ≠ memoId) :
    (s.updateMemo tenantId memoId status f hf).memos.find? id = s.memos.find? id := by
  rw [find?_updateMemo]
  cases hfind : s.memos.find? id with
  | none => rfl
  | some m =>
    have hid : m.id = id := Table.find?_key hfind
    have hne : m.id ≠ memoId := by
      rw [hid]
      exact h
    simp [hne]

theorem find?_updateMemo_same (status : MemoStatus) (f : Memo → Memo) (hf : ∀ m, (f m).id = m.id)
    (h : s.memos.find? memoId = some m) (htenant : m.tenantId = tenantId) :
    (s.updateMemo tenantId memoId status f hf).memos.find? memoId =
      some (if m.status = status then f m else m) := by
  have hid : m.id = memoId := Table.find?_key h
  rw [find?_updateMemo, h]
  simp [htenant, hid]

theorem find?_updateMemo_none {hf : ∀ m, (f m).id = m.id} (h : s.memos.find? id = none) :
    (s.updateMemo tenantId memoId status f hf).memos.find? id = none := by
  rw [find?_updateMemo, h]
  rfl

theorem updates_iff :
    s.updates tenantId memoId status = true ↔
      ∃ m, s.memos.find? memoId = some m ∧ m.tenantId = tenantId ∧ m.status = status := by
  unfold updates
  rw [List.any_eq_true]
  constructor
  · rintro ⟨m, hm, hmatch⟩
    simp only [Bool.and_eq_true, decide_eq_true_eq] at hmatch
    exact ⟨m, (s.memos.find?_eq_some_iff _ _).mpr ⟨hm, hmatch.1.2⟩, hmatch.1.1, hmatch.2⟩
  · rintro ⟨m, hfind, htenant, hstatus⟩
    obtain ⟨hm, hid⟩ := (s.memos.find?_eq_some_iff _ _).mp hfind
    exact ⟨m, hm, by simp [htenant, hid, hstatus]⟩

theorem SoundAt.fresh (h : s.SoundAt m) (hm : m.status ≠ .draft) {n : Nat}
    (hfresh : ∀ o ∈ s.revisionsOf m.id, o.revision ≠ n + 1) : m.revision ≤ n := by
  by_contra hlt
  have hmem : n + 1 ∈ (s.revisionsOf m.id).map MemoRevision.revision := by
    rw [h.numbered hm, List.mem_range'_1]
    omega
  obtain ⟨o, ho, heq⟩ := List.mem_map.mp hmem
  exact hfresh o ho heq

variable {terminals : List MemoTerminal} {now : Int} {memo : Memo}

theorem publishMemo_ok
    {locationIds : List String} (h : s.publishMemo terminals now memo locationIds = .ok s') :
    (∀ o ∈ s.revisionsOf memo.id, o.revision ≠ 1) ∧
      s'.memos = (s.updateMemo memo.tenantId memo.id .draft
        (Memo.published now (memo.duration.expiresAt now)) (fun _ => rfl)).memos ∧
      (s'.memos.find? memo.id).isSome ∧
      s'.revisions = s.revisions ++
        [⟨memo.id, memo.tenantId, 1, memo.title, memo.body, now, memo.authorUserId⟩] ∧
      (∀ r ∈ s.recipients, r ∈ s'.recipients) ∧ ∃ r ∈ s'.recipients, r.memoId = memo.id := by
  unfold publishMemo at h
  simp only at h
  cases hinsert : (s.updateMemo memo.tenantId memo.id .draft
      (Memo.published now (memo.duration.expiresAt now)) (fun _ => rfl)).insertRevision
      ⟨memo.id, memo.tenantId, 1, memo.title, memo.body, now, memo.authorUserId⟩ with
  | error e =>
    simp only [hinsert] at h
    cases h
  | ok s2 =>
    simp only [hinsert] at h
    obtain ⟨hfresh, hexists, hs2⟩ := insertRevision_ok_iff.mp hinsert
    cases hreached : (s2.targetTerminals terminals memo.tenantId memo.id
        locationIds.isEmpty).isEmpty with
    | true =>
      rw [if_pos hreached] at h
      cases h
    | false =>
      rw [if_neg (by rw [hreached]; exact Bool.false_ne_true)] at h
      cases h
      obtain ⟨hmemos, hrevisions, hrecipients⟩ := insertRecipients_frame (s := s2) memo.tenantId
        memo.id (s2.targetTerminals terminals memo.tenantId memo.id locationIds.isEmpty)
      refine ⟨hfresh, ?_, ?_, ?_, ?_, insertRecipients_received _ _ hreached⟩
      · rw [hmemos, hs2]
      · rw [hmemos, hs2]
        exact hexists
      · rw [hrevisions, hs2]
        rfl
      · intro r hr
        apply hrecipients
        rw [hs2]
        exact hr

theorem revisionsOf_of_append {r : MemoRevision} (h : s'.revisions = s.revisions ++ [r])
    (id : String) : s'.revisionsOf id = s.revisionsOf id ++ if r.memoId = id then [r] else [] := by
  unfold revisionsOf
  rw [h, List.filter_append]
  by_cases hid : r.memoId = id <;> simp [hid]

theorem publishMemo_step (hs : s.Sound)
    {locationIds : List String} (hknows : s.Knows (.publish memo locationIds now))
    (h : s.publishMemo terminals now memo locationIds = .ok s') (id : String) :
    Step (.publish memo locationIds now) s s' id := by
  obtain ⟨hfresh, hmemos, hexists, hrevisions, hrecipients, hreached⟩ := publishMemo_ok h
  have hrows := revisionsOf_of_append hrevisions id
  by_cases hid : id = memo.id
  · subst hid
    rw [if_pos rfl] at hrows
    cases hfind : s.memos.find? memo.id with
    | none =>
      rw [hmemos, Option.isSome_iff_ne_none] at hexists
      exact absurd (find?_updateMemo_none hfind) hexists
    | some m =>
      obtain ⟨htenant, hcontent⟩ := hknows m hfind
      have hkey : m.id = memo.id := Table.find?_key hfind
      have hafter := find?_updateMemo_same .draft
        (Memo.published now (memo.duration.expiresAt now)) (fun _ => rfl) hfind htenant
      -- a memo that is no draft has its first revision
      have hdraft : m.status = .draft := by
        by_contra hno
        have hsound := hs.at hfind
        rw [← hkey] at hfresh
        have hle := hsound.fresh hno (n := 0) hfresh
        have hone := hsound.one_le hno
        omega
      rw [if_pos hdraft, ← hmemos] at hafter
      obtain ⟨htitle, hbody⟩ := hcontent hdraft
      refine .published m memo locationIds now _ rfl hfind hdraft hafter ?_ hreached
      rw [hrows, htitle, hbody]
  · rw [if_neg (Ne.symm hid), List.append_nil] at hrows
    refine .kept ?_ hrows (fun r hr _ => hrecipients r hr)
    rw [hmemos]
    exact find?_updateMemo_other hid

theorem reviseMemo_step (hs : s.Sound) {actor title body : String}
    (hknows : s.Knows (.revise memo actor title body now))
    (h : s.reviseMemo actor title body now memo = .ok s') (id : String) :
    Step (.revise memo actor title body now) s s' id := by
  unfold reviseMemo at h
  cases hupdates : s.updates memo.tenantId memo.id .published with
  | false =>
    rw [hupdates, if_neg Bool.false_ne_true] at h
    cases h
  | true =>
    rw [if_pos hupdates] at h
    obtain ⟨hfresh, _, hs'⟩ := insertRevision_ok_iff.mp h
    obtain ⟨m, hfind, htenant, hpublished⟩ := updates_iff.mp hupdates
    have hkey : m.id = memo.id := Table.find?_key hfind
    have hmemos : s'.memos = (s.updateMemo memo.tenantId memo.id .published
        (Memo.revised title body (memo.revision + 1) now) (fun _ => rfl)).memos := by rw [hs']
    have hrevisions : s'.revisions = s.revisions ++
        [⟨memo.id, memo.tenantId, memo.revision + 1, title, body, now, actor⟩] := by
      rw [hs']
      rfl
    have hrecipients : s'.recipients = s.recipients := by
      rw [hs']
      rfl
    have hrows := revisionsOf_of_append hrevisions id
    by_cases hid : id = memo.id
    · subst hid
      rw [if_pos rfl] at hrows
      have hno : m.status ≠ .draft := by
        rw [hpublished]
        decide
      -- the number of the new row is not taken: the read is not stale
      have hle := (hs.at hfind).fresh hno (n := memo.revision) (by rw [hkey]; exact hfresh)
      have hrevision : memo.revision = m.revision := Nat.le_antisymm (hknows m hfind) hle
      have hafter := find?_updateMemo_same .published
        (Memo.revised title body (memo.revision + 1) now) (fun _ => rfl) hfind htenant
      rw [if_pos hpublished, ← hmemos] at hafter
      rw [hrevision] at hafter hrows
      refine .revised m memo actor title body now rfl hfind hpublished hafter hrows ?_
      intro r hr _
      rw [hrecipients]
      exact hr
    · rw [if_neg (Ne.symm hid), List.append_nil] at hrows
      refine .kept ?_ hrows ?_
      · rw [hmemos]
        exact find?_updateMemo_other hid
      · intro r hr _
        rw [hrecipients]
        exact hr

theorem stopMemo_step {actor : String} (h : s.stopMemo actor now memo = .ok s') (id : String) :
    Step (.stop memo actor now) s s' id := by
  unfold stopMemo at h
  cases hupdates : s.updates memo.tenantId memo.id .published with
  | false =>
    rw [hupdates, if_neg Bool.false_ne_true] at h
    cases h
  | true =>
    rw [if_pos hupdates] at h
    cases h
    obtain ⟨m, hfind, htenant, hpublished⟩ := updates_iff.mp hupdates
    by_cases hid : id = memo.id
    · subst hid
      have hafter := find?_updateMemo_same .published
        (Memo.stopped actor now) (fun _ => rfl) hfind htenant
      rw [if_pos hpublished] at hafter
      exact .moved m _ hfind hafter (.stop memo m actor now hpublished) rfl (fun _ hr _ => hr)
    · exact .kept (find?_updateMemo_other hid) rfl (fun _ hr _ => hr)

variable {view : MemoView} {p : Memo → Bool}

theorem sweep_step (hf : ∀ m, (f m).id = m.id) (hmove : ∀ m, p m = true → Moved view m (f m))
    (id : String) : Step view s { s with memos := s.memos.updateWhere p f hf } id := by
  have hafter := Table.find?_updateWhere s.memos p f hf id
  cases hfind : s.memos.find? id with
  | none =>
    rw [hfind] at hafter
    exact .kept (by rw [hafter, hfind]; rfl) rfl (fun _ hr _ => hr)
  | some m =>
    rw [hfind, Option.map_some] at hafter
    by_cases hp : p m = true
    · rw [if_pos hp] at hafter
      exact .moved m _ hfind hafter (hmove m hp) rfl (fun _ hr _ => hr)
    · rw [if_neg hp] at hafter
      exact .kept (by rw [hafter, hfind]) rfl (fun _ hr _ => hr)

theorem deleteWhere_rows (id : String) (h : ∀ m ∈ s.memos.rows, m.id = id → p m = false) :
    (s.deleteWhere p).revisionsOf id = s.revisionsOf id ∧
      ∀ r ∈ s.recipients, r.memoId = id → r ∈ (s.deleteWhere p).recipients := by
  have hstays : ((s.memos.rows.filter p).map Memo.id).contains id = false := by
    rw [Bool.eq_false_iff]
    intro hcontains
    obtain ⟨m, hm, hid⟩ := List.mem_map.mp (List.contains_iff_mem.mp hcontains)
    obtain ⟨hm, hpm⟩ := List.mem_filter.mp hm
    rw [h m hm hid] at hpm
    cases hpm
  unfold revisionsOf deleteWhere
  constructor
  · rw [List.filter_filter]
    apply List.filter_congr
    intro r _
    by_cases hr : r.memoId = id
    · rw [hr, hstays, Bool.not_false, Bool.and_true]
    · rw [decide_eq_false hr, Bool.false_and]
  · intro r hr hrid
    rw [List.mem_filter, hrid, hstays]
    exact ⟨hr, rfl⟩

theorem deleteWhere_step (hp : ∀ m, p m = true → m.status = .archived) (id : String) :
    Step view s (s.deleteWhere p) id := by
  have hrows : ∀ m, m ∈ (s.deleteWhere p).memos.rows ↔ m ∈ s.memos.rows ∧ p m = false := by
    intro m
    simp [deleteWhere, Table.retain]
  cases hfind : s.memos.find? id with
  | none =>
    have hno := (Table.find?_eq_none_iff _ _).mp hfind
    obtain ⟨hrevisions, hrecipients⟩ :=
      deleteWhere_rows (p := p) id (fun m hm hid => absurd hid (hno m hm))
    refine .kept ?_ hrevisions hrecipients
    rw [hfind, Table.find?_eq_none_iff]
    exact fun m hm => hno m ((hrows m).mp hm).1
  | some m =>
    obtain ⟨hm, hid⟩ := (s.memos.find?_eq_some_iff _ _).mp hfind
    have hsame : ∀ o ∈ s.memos.rows, o.id = id → o = m := fun o ho hoid =>
      List.inj_on_of_nodup_map s.memos.unique ho hm (hoid.trans hid.symm)
    cases hpm : p m with
    | true =>
      refine .deleted m hfind (hp m hpm) ?_
      rw [Table.find?_eq_none_iff]
      intro o ho hoid
      obtain ⟨ho, hpo⟩ := (hrows o).mp ho
      rw [hsame o ho hoid, hpm] at hpo
      cases hpo
    | false =>
      obtain ⟨hrevisions, hrecipients⟩ := deleteWhere_rows (p := p) id (by
        intro o ho hoid
        rw [hsame o ho hoid]
        exact hpm)
      refine .kept ?_ hrevisions hrecipients
      rw [hfind, Table.find?_eq_some_iff]
      exact ⟨(hrows m).mpr ⟨hm, hpm⟩, hid⟩

theorem written_step (hs : s.Sound) (hknows : s.Knows view)
    (h : s.written terminals view = .ok s') (id : String) : Step view s s' id := by
  cases view with
  | publish memo locationIds now => exact publishMemo_step hs hknows h id
  | revise memo actor title body now => exact reviseMemo_step hs hknows h id
  | stop memo actor now => exact stopMemo_step h id
  | sweepExpired tenantId now =>
    cases h
    apply sweep_step
    intro m hm
    simp only [Memo.isDue, Bool.and_eq_true, decide_eq_true_eq] at hm
    exact .expireOf tenantId m now hm.2.1
  | sweepAllExpired now =>
    cases h
    apply sweep_step
    intro m hm
    simp only [Memo.isDue, Bool.and_eq_true, decide_eq_true_eq] at hm
    exact .expire m now hm.1
  | sweepEndedToArchived now =>
    cases h
    exact sweep_step _ (fun m hm => .archive m now hm) id
  | sweepExpiredArchives now windowDays =>
    cases now with
    | error e => cases h
    | ok now =>
      cases h
      apply deleteWhere_step
      intro m hm
      simp only [Memo.pastRetention, Bool.and_eq_true, decide_eq_true_eq] at hm
      exact hm.1

variable {m' : Memo}

theorem Moved.row (h : Moved view m m') :
    m'.title = m.title ∧ m'.body = m.body ∧ m'.revision = m.revision ∧
      m'.tenantId = m.tenantId ∧ m.status ≠ .draft ∧ m'.status ≠ .draft ∧
      m'.status ≠ .published := by
  cases h with
  | stop memo _ actor now hm => simp [Memo.stopped, hm]
  | expireOf tenantId _ now hm => simp [Memo.expire, hm]
  | expire _ now hm => simp [Memo.expire, hm]
  | archive _ now hm =>
    have hno : m.status ≠ .draft := by
      intro hdraft
      simp [Memo.ended, hdraft] at hm
    simp [Memo.archive, hno]

theorem Step.earlier (h : Step view s s' id) (hm' : s'.memos.find? id = some m') :
    ∃ m, s.memos.find? id = some m ∧ m'.tenantId = m.tenantId ∧
      (m'.status = .draft → m' = m) ∧ m.revision ≤ m'.revision := by
  cases h with
  | kept memo _ _ =>
    rw [memo] at hm'
    exact ⟨m', hm', rfl, fun _ => rfl, Nat.le_refl _⟩
  | moved m _ before after move _ _ =>
    rw [after] at hm'
    cases hm'
    obtain ⟨_, _, hrevision, htenant, _, hdraft, _⟩ := move.row
    exact ⟨m, before, htenant, fun h => absurd h hdraft, Nat.le_of_eq hrevision.symm⟩
  | published m memo _ now expiresAt _ before _ after _ _ =>
    rw [after] at hm'
    cases hm'
    refine ⟨m, before, rfl, ?_, Nat.le_refl _⟩
    intro h
    cases h
  | revised m memo actor title body now _ before published after _ _ =>
    rw [after] at hm'
    cases hm'
    refine ⟨m, before, rfl, ?_, Nat.le_succ _⟩
    intro h
    rw [Memo.revised_status, published] at h
    cases h
  | deleted m before _ after =>
    rw [after] at hm'
    cases hm'

theorem Step.soundAt (h : Step view s s' id) (hs : s.Sound) (hm' : s'.memos.find? id = some m') :
    s'.SoundAt m' := by
  have hid' : m'.id = id := Table.find?_key hm'
  subst hid'
  cases h with
  | kept memo revisions recipients =>
    rw [memo] at hm'
    have hsound := hs.at hm'
    refine ⟨?_, ?_, ?_, ?_⟩
    · rw [revisions]
      exact hsound.draft
    · rw [revisions]
      exact hsound.numbered
    · rw [revisions]
      exact hsound.content
    · intro hpublished
      obtain ⟨r, hr, hrid⟩ := hsound.received hpublished
      exact ⟨r, recipients r hr hrid, hrid⟩
  | moved m moved before after move revisions recipients =>
    have hsame : moved = m' := Option.some.inj (after.symm.trans hm')
    subst hsame
    obtain ⟨htitle, hbody, hrevision, _, hno, hno', hnot⟩ := move.row
    have hsound := hs.at before
    have hnumbered := hsound.numbered hno
    have hcontent := hsound.content hno
    rw [Table.find?_key before] at hnumbered hcontent
    refine ⟨fun h => absurd h hno', ?_, ?_, fun h => absurd h hnot⟩
    · intro _
      rw [revisions, hrevision]
      exact hnumbered
    · intro _
      rw [revisions, htitle, hbody]
      exact hcontent
  | published m memo _ now expiresAt _ before draft after revisions recipients =>
    have hsame : m.published now expiresAt = m' := Option.some.inj (after.symm.trans hm')
    obtain ⟨hempty, hone⟩ := (hs.at before).draft draft
    rw [Table.find?_key before] at hempty
    rw [hempty, List.nil_append] at revisions
    have hrevision : m'.revision = 1 := by
      rw [← hsame]
      exact hone
    refine ⟨?_, ?_, ?_, fun _ => recipients⟩
    · intro hdraft
      rw [← hsame] at hdraft
      cases hdraft
    · intro _
      rw [revisions, hrevision]
      rfl
    · intro _
      rw [revisions, ← hsame]
      rfl
  | revised m memo actor title body now _ before published after revisions recipients =>
    have hsame : m.revised title body (m.revision + 1) now = m' :=
      Option.some.inj (after.symm.trans hm')
    have hno : m.status ≠ .draft := by
      rw [published]
      decide
    have hsound := hs.at before
    have hnumbered := hsound.numbered hno
    rw [Table.find?_key before] at hnumbered
    refine ⟨?_, ?_, ?_, ?_⟩
    · intro hdraft
      rw [← hsame] at hdraft
      exact absurd hdraft hno
    · intro _
      have hrevision : m'.revision = m.revision + 1 := by rw [← hsame]; rfl
      rw [revisions, List.map_append, hnumbered, hrevision, List.range'_1_concat, Nat.add_comm 1]
      rfl
    · intro _
      rw [revisions, ← hsame, List.getLast?_append]
      rfl
    · intro _
      obtain ⟨r, hr, hrid⟩ := hsound.received published
      rw [Table.find?_key before] at hrid
      exact ⟨r, recipients r hr hrid, hrid⟩
  | deleted m before _ after =>
    rw [after] at hm'
    cases hm'

/-- An ended memo stays as it is or is archived, and a change that is no publication leaves its
own time in `updated_at`. -/
structure Advances (s s' : MemoStore) (view : MemoView) : Prop where
  ended : ∀ id m, s.memos.find? id = some m → m.status = .stopped ∨ m.status = .expired →
    s'.memos.find? id = some m ∨ ∃ now, s'.memos.find? id = some (m.archive now)
  stamped : ∀ id m m', s.memos.find? id = some m → s'.memos.find? id = some m' → m' ≠ m →
    view.madeAt.all (fun now => m'.updatedAt = now)

theorem Moved.advances (h : Moved view m m') :
    (m.status = .stopped ∨ m.status = .expired → ∃ now, m' = m.archive now) ∧
      view.madeAt = some m'.updatedAt := by
  cases h with
  | stop memo _ actor now hm => simp [hm, MemoView.madeAt, Memo.stopped]
  | expireOf tenantId _ now hm => simp [hm, MemoView.madeAt, Memo.expire]
  | expire _ now hm => simp [hm, MemoView.madeAt, Memo.expire]
  | archive _ now hm => exact ⟨fun _ => ⟨now, rfl⟩, rfl⟩

theorem advances_of_steps (h : ∀ id, Step view s s' id) : s.Advances s' view where
  ended := by
    intro id m hm hended
    cases h id with
    | kept memo _ _ => exact .inl (memo.trans hm)
    | moved moved m' before after move _ _ =>
      rw [hm] at before
      cases before
      obtain ⟨now, rfl⟩ := move.advances.1 hended
      exact .inr ⟨now, after⟩
    | published draft memo _ now expiresAt _ before hdraft after _ _ =>
      rw [hm] at before
      cases before
      rw [hdraft] at hended
      simp at hended
    | revised live memo actor title body now _ before hpublished after _ _ =>
      rw [hm] at before
      cases before
      rw [hpublished] at hended
      simp at hended
    | deleted gone before harchived after =>
      rw [hm] at before
      cases before
      rw [harchived] at hended
      simp at hended
  stamped := by
    intro id m m' hm hm' hne
    cases h id with
    | kept memo _ _ =>
      rw [memo, hm] at hm'
      cases hm'
      exact absurd rfl hne
    | moved _ moved before after move _ _ =>
      rw [hm'] at after
      cases after
      rw [move.advances.2]
      exact decide_eq_true rfl
    | published draft memo locationIds now expiresAt call _ _ _ _ _ =>
      rw [call]
      rfl
    | revised live memo actor title body now call before _ after _ _ =>
      rw [hm'] at after
      cases after
      rw [call]
      exact decide_eq_true rfl
    | deleted gone _ _ after =>
      rw [after] at hm'
      cases hm'

theorem sound_written (hs : s.Sound)
    (hknows : s.Knows view) (h : s.written terminals view = .ok s') : s'.Sound := by
  intro m hm
  have hfind := (s'.memos.mem_rows_iff m).mp hm
  exact (written_step hs hknows h m.id).soundAt hs hfind

theorem knows_written (hs : s.Sound) {other : MemoView} (hknows : s.Knows view)
    (h : s.written terminals view = .ok s') (hother : s.Knows other) : s'.Knows other := by
  cases other with
  | publish memo locationIds now =>
    intro m' hm'
    obtain ⟨m, hm, htenant, hdraft, _⟩ := (written_step hs hknows h memo.id).earlier hm'
    obtain ⟨hsame, hcontent⟩ := hother m hm
    refine ⟨htenant.trans hsame, ?_⟩
    intro hstatus
    have hrow := hdraft hstatus
    rw [hrow] at hstatus ⊢
    exact hcontent hstatus
  | revise memo actor title body now =>
    intro m' hm'
    obtain ⟨m, hm, _, _, hle⟩ := (written_step hs hknows h memo.id).earlier hm'
    exact Nat.le_trans (hother m hm) hle
  | stop memo actor now => trivial
  | sweepExpired tenantId now => trivial
  | sweepAllExpired now => trivial
  | sweepEndedToArchived now => trivial
  | sweepExpiredArchives now windowDays => trivial

theorem getMemo_eq {found : Memo × List String}
    (h : s.getMemo tenantId memoId = some found) : s.memos.find? memoId = some found.1 := by
  unfold getMemo at h
  cases hfind : s.memos.find? memoId with
  | none =>
    simp only [hfind] at h
    cases h
  | some m =>
    simp only [hfind] at h
    by_cases htenant : m.tenantId = tenantId
    · rw [if_pos htenant] at h
      cases h
      rfl
    · rw [if_neg htenant] at h
      cases h

theorem knows_read {call : MemoCall} (h : memoCalls.read call s = .inr view) : s.Knows view := by
  cases call with
  | publish tenantId memoId now =>
    simp only [memoCalls, readPublish] at h
    cases hget : s.getMemo tenantId memoId with
    | none =>
      simp only [hget] at h
      cases h
    | some found =>
      obtain ⟨memo, locationIds⟩ := found
      have hfind := getMemo_eq hget
      simp only [hget] at h
      by_cases hstatus : memo.status.canTransition .published = true
      · rw [if_pos hstatus] at h
        cases h
        intro m hm
        rw [Table.find?_key hfind, hfind] at hm
        cases hm
        exact ⟨rfl, fun _ => ⟨rfl, rfl⟩⟩
      · rw [if_neg hstatus] at h
        cases h
  | revise tenantId memoId actor title body now =>
    simp only [memoCalls, readRevise] at h
    by_cases hbody : (trim body).isEmpty = true
    · rw [if_pos hbody] at h
      cases h
    · rw [if_neg hbody] at h
      cases hget : s.getMemo tenantId memoId with
      | none =>
        simp only [hget] at h
        cases h
      | some found =>
        obtain ⟨memo, locationIds⟩ := found
        have hfind := getMemo_eq hget
        simp only [hget] at h
        by_cases hstatus : memo.status = .published
        · rw [if_pos hstatus] at h
          cases h
          intro m hm
          rw [Table.find?_key hfind, hfind] at hm
          cases hm
          exact Nat.le_refl _
        · rw [if_neg hstatus] at h
          cases h
  | stop tenantId memoId actor now =>
    simp only [memoCalls, readStop] at h
    cases hget : s.getMemo tenantId memoId with
    | none =>
      simp only [hget] at h
      cases h
    | some found =>
      simp only [hget] at h
      by_cases hstatus : found.1.status.canTransition .stopped = true
      · rw [if_pos hstatus] at h
        cases h
        trivial
      · rw [if_neg hstatus] at h
        cases h
  | sweepExpired tenantId now =>
    cases h
    trivial
  | sweepAllExpired now =>
    cases h
    trivial
  | sweepEndedToArchived now =>
    cases h
    trivial
  | sweepExpiredArchives now windowDays =>
    cases h
    trivial

theorem memos_disciplined : memoCalls.Disciplined Sound Knows (fun _ _ _ => True) where
  found := fun s call view _ hread => knows_read hread
  kept := by
    intro s view terminals hs hknows _
    simp only [memoCalls]
    cases hwritten : s.written terminals view with
    | error e => exact hs
    | ok s' => exact sound_written hs hknows hwritten
  stable := by
    intro s view terminals other hs hknows _ hother
    simp only [memoCalls]
    cases hwritten : s.written terminals view with
    | error e => exact hother
    | ok s' => exact knows_written hs hknows hwritten hother

theorem advances_refl (s : MemoStore) (view : MemoView) : s.Advances s view where
  ended := fun _ _ hm _ => .inl hm
  stamped := by
    intro id m m' hm hm' hne
    rw [hm] at hm'
    cases hm'
    exact absurd rfl hne

theorem advances_write (hs : s.Sound) (hknows : s.Knows view) (terminals : List MemoTerminal) :
    s.Advances (memoCalls.write terminals view s).1 view := by
  simp only [memoCalls]
  cases hwritten : s.written terminals view with
  | error e => exact s.advances_refl view
  | ok s' => exact advances_of_steps (written_step hs hknows hwritten)

theorem sound_createMemoDraft (hs : s.Sound) {known : List String}
    {new : NewMemo} (hfresh : s.revisionsOf id = [])
    (h : s.createMemoDraft known id now new = .ok s') : s'.Sound := by
  unfold createMemoDraft at h
  cases hvalid : validateNewMemo new with
  | error e =>
    simp only [hvalid] at h
    cases h
  | ok _ =>
    simp only [hvalid] at h
    split at h
    · cases h
    · rename_i memos hinsert
      split at h
      · cases h
        intro m hm
        rw [Table.insert?_rows hinsert, List.mem_append, List.mem_singleton] at hm
        rcases hm with hm | rfl
        · obtain ⟨hdraft, hnumbered, hcontent, hreceived⟩ := hs m hm
          exact ⟨hdraft, hnumbered, hcontent, hreceived⟩
        · exact ⟨fun _ => ⟨hfresh, rfl⟩, fun h => absurd rfl h, fun h => absurd rfl h,
            fun h => nomatch h⟩
      · cases h

end MemoStore

/-- After every interleaving the three tables agree about each memo, and every write leaves an
ended memo or archives it, and stamps what it changes unless it publishes. -/
theorem memosHold (s : MemoStore) (hs : s.Sound) (events : List (CallEvent MemoCall
    (List MemoTerminal))) :
    (∀ l r, events = l ++ r → (memoCalls.machine.run (.start s) l).shared.Sound) ∧
      memoCalls.machine.Along
        (Calls.AtWrite (fun s view terminals =>
          s.Advances (memoCalls.write terminals view s).1 view)) (.start s) events := by
  constructor
  · intro l r _
    exact MemoStore.memos_disciplined.always hs l
  · apply MemoStore.memos_disciplined.along_always _ hs
    intro s view terminals hs hknows
    exact MemoStore.advances_write hs hknows terminals

/-- A memo drafted into sound tables leaves them sound, whatever calls come after it. -/
theorem drafted_memo_holds {s s' : MemoStore} {known : List String} {id : String} {now : Int}
    {new : NewMemo} (hs : s.Sound) (hfresh : s.revisionsOf id = [])
    (h : s.createMemoDraft known id now new = .ok s')
    (events : List (CallEvent MemoCall (List MemoTerminal))) :
    (memoCalls.machine.run (.start s') events).shared.Sound :=
  MemoStore.memos_disciplined.always (MemoStore.sound_createMemoDraft hs hfresh h) events

def openingHours : Memo :=
  ⟨"m1", "t1", "u1", "owner", "Hours", "Open from nine", .draft, .hours24, 1, none, none, none,
    none, none, 0, 0⟩

def oneDraft : MemoStore := ⟨⟨[openingHours], by decide⟩, [], [], []⟩

def publishNow : List (CallEvent MemoCall (List MemoTerminal)) :=
  [.read 0 (.publish "t1" "m1" 1000), .write 0 [⟨"till", "t1", none⟩]]

theorem oneDraft_sound : oneDraft.Sound := by
  intro m hm
  rw [List.mem_singleton.mp hm]
  exact ⟨fun _ => ⟨rfl, rfl⟩, fun h => absurd rfl h, fun h => absurd rfl h, fun h => nomatch h⟩

def fridayMemo : NewMemo := ⟨"t1", "u1", "manager", "", "Closed", .hours24, []⟩

theorem fridayMemo_holds :
    ∃ s, oneDraft.createMemoDraft [] "m2" 0 fridayMemo = .ok s ∧
      (memoCalls.machine.run (.start s) publishNow).shared.Sound := by
  have hdraft : oneDraft.createMemoDraft [] "m2" 0 fridayMemo = .ok _ := rfl
  exact ⟨_, hdraft, drafted_memo_holds oneDraft_sound rfl hdraft publishNow⟩

theorem openingHours_published :
    (memoCalls.machine.run (.start oneDraft) publishNow).shared.Sound ∧
      ((memoCalls.machine.run (.start oneDraft) publishNow).shared.memos.find? "m1").map
        Memo.status = some .published :=
  ⟨(memosHold oneDraft oneDraft_sound publishNow).1 publishNow [] (by simp), by decide⟩

/-- A draft has the revision 1 and no revision row; once published at 1000 it is stamped with its
expiry. -/
theorem openingHours_unnumbered :
    ¬ ((oneDraft.revisionsOf "m1").map MemoRevision.revision =
        List.range' 1 openingHours.revision) ∧
      ((memoCalls.machine.run (.start oneDraft) publishNow).shared.memos.find? "m1").map
        Memo.updatedAt = some 86401000 := by
  decide

end OzPos
