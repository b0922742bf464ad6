import OzPos.Qris.Printed
import OzPos.Library.Outcome

namespace OzPos

namespace QrisPayload

variable (p : QrisPayload)

def intoBuilder : QrisBuilder := .fromPayload p

def intoDynamic (amount : String) : Except QrisError QrisPayload :=
  (parseAmount amount).map (fun _ => { p with amount := some amount, initiation := .dynamic })

def intoStatic : QrisPayload :=
  { p with amount := none, tip := none, initiation := .static }

structure SlotKept (first slot : MerchantAccountInfo) : Prop where
  guid : slot.guid = first.guid
  merchantPan : slot.merchantPan = first.merchantPan
  nmid : slot.nmid = first.nmid
  criteria : slot.criteria = first.criteria
  whole : first.tag = 26 → first.extraSubTags = [] → slot = first

/-- The payload with its first slot made again: dynamic with an amount and static without, and
nothing of an empty template. -/
def rebuilt (slot : MerchantAccountInfo) : QrisPayload :=
  { p with
    initiation := if p.amount.isSome then .dynamic else .static
    merchantAccounts := slot :: p.merchantAccounts.tail
    additionalData := p.additionalData.filter (fun data => !data.isEmpty) }

variable {p : QrisPayload}

theorem parse_accounts {text : String} (h : parse text = some (.ok p)) :
    ∃ first rest, p.merchantAccounts = first :: rest := by
  unfold parse at h
  split at h
  · cases h
  · cases h
  · split at h
    · cases h
    · rename_i tlvs _
      have hread : fromTlvs tlvs = .ok p := Option.some.inj h
      unfold fromTlvs at hread
      split at hread
      · cases hread
      · obtain ⟨⟨first, rest, haccounts, -⟩, -⟩ := ParseState.finish_ok hread
        exact ⟨first, rest, haccounts⟩

theorem additional_rebuilt (additional : Option AdditionalData) :
    (if (additional.getD .empty).isEmpty then none else some (additional.getD .empty)) =
      additional.filter (fun data => !data.isEmpty) := by
  cases additional with
  | none => rfl
  | some data => cases h : data.isEmpty <;> simp [Option.filter, h]

theorem build_intoBuilder {first : MerchantAccountInfo} {rest : List MerchantAccountInfo}
    (h : p.merchantAccounts = first :: rest) :
    (∀ a e, p.amount = some a → parseAmount a = .error e → p.intoBuilder.build = .error e) ∧
      ((∀ a, p.amount = some a → (parseAmount a).isOk = true) →
        p.intoBuilder.build =
          .ok (p.rebuilt ⟨26, first.guid, first.merchantPan, first.nmid, first.criteria, []⟩)) := by
  unfold intoBuilder QrisBuilder.fromPayload QrisBuilder.build rebuilt
  simp only [h, List.head?_cons, Option.map_some, Option.bind_some, List.tail_cons,
    additional_rebuilt, Option.getD_some]
  constructor
  · intro a e ha he
    simp [ha, he]
  · intro hok
    cases ha : p.amount with
    | none => rfl
    | some a =>
      obtain ⟨n, hn⟩ := (Except.isOk_iff _).mp (hok a ha)
      simp [hn]

end QrisPayload

/-- A parsed payload through the builder, and stamped with an amount that is taken off again. -/
theorem parsed_payload_rebuilt {text : String} {p : QrisPayload}
    (h : QrisPayload.parse text = some (.ok p)) :
    (∀ a e, p.amount = some a → parseAmount a = .error e → p.intoBuilder.build = .error e) ∧
      ((∀ a, p.amount = some a → (parseAmount a).isOk = true) →
        ∃ first slot, p.merchantAccounts.head? = some first ∧
          QrisPayload.SlotKept first slot ∧ p.intoBuilder.build = .ok (p.rebuilt slot)) ∧
      (∀ amount e, parseAmount amount = .error e → p.intoDynamic amount = .error e) ∧
      ∀ amount n, parseAmount amount = .ok n →
        (p.intoDynamic amount).map QrisPayload.intoStatic =
          .ok { p with initiation := .static, amount := none, tip := none } := by
  obtain ⟨first, rest, haccounts⟩ := QrisPayload.parse_accounts h
  obtain ⟨hrefused, hbuilt⟩ := QrisPayload.build_intoBuilder haccounts
  refine ⟨hrefused, ?_, ?_, ?_⟩
  · intro hok
    refine ⟨first, ⟨26, first.guid, first.merchantPan, first.nmid, first.criteria, []⟩, ?_,
      ⟨rfl, rfl, rfl, rfl, ?_⟩, hbuilt hok⟩
    · rw [haccounts]
      rfl
    · intro htag hsubs
      rw [← htag, ← hsubs]
  · intro amount e he
    simp [QrisPayload.intoDynamic, he, Except.map]
  · intro amount n hn
    simp [QrisPayload.intoDynamic, hn, Except.map, QrisPayload.intoStatic]

def kioskSticker : QrisPayload :=
  { initiation := .static
    merchantAccounts := [⟨26, "ID.CO.QRIS.WWW", none, "ID1020030040", none, []⟩]
    merchantCategoryCode := "5411", currency := "360", amount := some "5,000"
    tip := some (.fixed "100"), countryCode := "ID", merchantName := "Kiosk"
    merchantCity := "Jakarta", postalCode := none, additionalData := none, extra := [] }

theorem kiosk_encodable : kioskSticker.Encodable where
  nmid := ⟨_, _, rfl, by decide⟩
  accounts := by
    intro a ha
    rw [List.mem_singleton.mp ha]
    exact ⟨by decide, by decide, ⟨by decide, by decide⟩, by decide⟩
  additional := by
    intro d hd
    cases hd
  texts := by
    simp only [QrisPayload.texts, TextFits]
    decide
  extra := by decide

theorem kiosk_rebuilt_otherwise :
    (∃ text, QrisPayload.parse text = some (.ok kioskSticker)) ∧
      kioskSticker.intoBuilder.build = .error (.invalidAmount "5,000") ∧
      (kioskSticker.intoDynamic "5000").map (fun d => d.intoStatic.tip) = .ok none ∧
      kioskSticker.tip = some (.fixed "100") := by
  obtain ⟨text, -, htext⟩ := encodable_round_trips kiosk_encodable
  exact ⟨⟨text, htext⟩, by decide +kernel, by decide +kernel, rfl⟩

theorem kiosk_without_amount :
    ∃ text, QrisPayload.parse text = some (.ok kioskSticker) ∧
      (kioskSticker.intoDynamic "5000").map QrisPayload.intoStatic =
        .ok { kioskSticker with initiation := .static, amount := none, tip := none } := by
  obtain ⟨text, -, htext⟩ := encodable_round_trips kiosk_encodable
  exact ⟨text, htext, (parsed_payload_rebuilt htext).2.2.2 "5000" 5000 (by decide +kernel)⟩

end OzPos
