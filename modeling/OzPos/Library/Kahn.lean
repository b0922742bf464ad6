import Mathlib.Algebra.Order.Ring.Int
import Mathlib.Data.Fintype.Pigeonhole
import Mathlib.Algebra.Order.BigOperators.Group.List
import Mathlib.Algebra.Order.Group.Nat

/-! Kahn's algorithm over lists: nodes enter a queue as their last edge is counted off. -/

namespace Kahn

variable {α : Type} [DecidableEq α]

/-- How many edges into each node are still counted, and the nodes that wait. -/
structure State (α : Type) where
  degree : α → Nat
  queue : List α

def countOff (st : State α) (c : α) : State α :=
  let left := st.degree c - 1
  ⟨Function.update st.degree c left, if left = 0 then st.queue ++ [c] else st.queue⟩

variable (targets : α → List α)

/-- At most `fuel` nodes leave the queue, and the edges out of them are counted off. -/
def drain (targets : α → List α) : Nat → State α → List α → State α × List α
  | 0, st, sorted => (st, sorted)
  | fuel + 1, st, sorted =>
    match st.queue with
    | [] => (st, sorted)
    | node :: queue =>
      drain targets fuel ((targets node).foldl countOff ⟨st.degree, queue⟩) (sorted ++ [node])

variable (nodes : List α)

def init (degree : α → Nat) : State α :=
  ⟨degree, nodes.filter (fun c => degree c = 0)⟩

def into (sources : List α) (c : α) : Nat :=
  (sources.map (fun n => (targets n).count c)).sum

def Edge (n c : α) : Prop := n ∈ nodes ∧ c ∈ targets n

def OnCycle (c : α) : Prop :=
  Relation.TransGen (Edge targets nodes) c c

/-- Every edge leads to a node, and no more lead to one than its degree says. -/
structure Bounded (targets : α → List α) (nodes : List α) (degree : α → Nat) : Prop where
  nodup : nodes.Nodup
  known : ∀ n ∈ nodes, ∀ c ∈ targets n, c ∈ nodes
  enough : ∀ c ∈ nodes, into targets nodes c ≤ degree c

/-- What holds between two nodes leaving the queue. -/
structure Inv (targets : α → List α) (nodes : List α) (degree : α → Nat) (st : State α)
    (sorted : List α) : Prop where
  nodup : (sorted ++ st.queue).Nodup
  waiting : ∀ c, c ∈ sorted ++ st.queue ↔ c ∈ nodes ∧ st.degree c = 0
  counted : ∀ c ∈ nodes, st.degree c + into targets sorted c = degree c
  ordered : ∀ l c r, sorted = l ++ c :: r → ∀ n, Edge targets nodes n c → n ∈ l

variable {targets : α → List α} {nodes sorted : List α} {degree : α → Nat} {st : State α} {c : α}

theorem into_append (l r : List α) (c : α) :
    into targets (l ++ r) c = into targets l c + into targets r c := by
  simp [into]

theorem countOff_enough {t : α} {edges : List α} (h : ∀ c, (t :: edges).count c ≤ st.degree c) :
    ∀ c, edges.count c ≤ (countOff st t).degree c := by
  intro c
  have hc := h c
  rw [List.count_cons] at hc
  by_cases hct : t = c
  · subst hct
    simp only [beq_self_eq_true, if_true] at hc
    simp only [countOff, Function.update_self]
    omega
  · simp only [countOff, Function.update_of_ne (Ne.symm hct)]
    omega

theorem foldl_countOff (edges : List α) {st : State α} (h : ∀ c, edges.count c ≤ st.degree c) :
    ∃ entered : List α, (edges.foldl countOff st).queue = st.queue ++ entered ∧ entered.Nodup ∧
      (∀ c, c ∈ entered ↔ c ∈ edges ∧ (edges.foldl countOff st).degree c = 0) ∧
      ∀ c, (edges.foldl countOff st).degree c + edges.count c = st.degree c := by
  induction edges generalizing st with
  | nil => exact ⟨[], by simp, List.nodup_nil, by simp, by simp⟩
  | cons t edges ih =>
    have hone : 1 ≤ st.degree t := by
      have ht := h t
      rw [List.count_cons_self] at ht
      omega
    have hnext := countOff_enough h
    obtain ⟨entered, hqueue, hnodup, hentered, hdegree⟩ := ih hnext
    have hcounted : ∀ c, ((t :: edges).foldl countOff st).degree c + (t :: edges).count c =
        st.degree c := by
      intro c
      have hc := hdegree c
      rw [List.foldl_cons, List.count_cons]
      by_cases hct : t = c
      · subst hct
        simp only [countOff, Function.update_self] at hc
        simp only [beq_self_eq_true, if_true, countOff]
        omega
      · simp only [countOff, Function.update_of_ne (Ne.symm hct)] at hc
        simp only [beq_iff_eq, hct, if_false, countOff]
        omega
    by_cases hlast : st.degree t - 1 = 0
    · have hout : t ∉ edges := by
        intro hmem
        have ht := h t
        have hpos := List.count_pos_iff.mpr hmem
        rw [List.count_cons_self] at ht
        omega
      have hzero : (edges.foldl countOff (countOff st t)).degree t = 0 := by
        have ht := hdegree t
        have hnone : (countOff st t).degree t = 0 := by simp [countOff, hlast]
        omega
      refine ⟨t :: entered, ?_, ?_, ?_, hcounted⟩
      · rw [List.foldl_cons, hqueue]
        simp [countOff, hlast]
      · exact List.nodup_cons.mpr ⟨fun hmem => hout ((hentered t).mp hmem).1, hnodup⟩
      · intro c
        rw [List.mem_cons, List.mem_cons, hentered c, List.foldl_cons]
        constructor
        · intro hc
          rcases hc with rfl | hc
          · exact ⟨.inl rfl, hzero⟩
          · exact ⟨.inr hc.1, hc.2⟩
        · intro hc
          rcases hc.1 with rfl | hmem
          · exact .inl rfl
          · exact .inr ⟨hmem, hc.2⟩
    · refine ⟨entered, ?_, hnodup, ?_, hcounted⟩
      · rw [List.foldl_cons, hqueue]
        simp [countOff, hlast]
      · intro c
        rw [hentered c, List.mem_cons, List.foldl_cons]
        constructor
        · intro hc
          exact ⟨.inr hc.1, hc.2⟩
        · intro hc
          rcases hc.1 with rfl | hmem
          · by_contra hnot
            have ht := hdegree c
            have hpos : c ∉ edges := fun hmem => hnot ⟨hmem, hc.2⟩
            rw [hc.2, List.count_eq_zero.mpr hpos] at ht
            simp only [countOff, Function.update_self] at ht
            omega
          · exact ⟨hmem, hc.2⟩

theorem inv_init (h : Bounded targets nodes degree) :
    Inv targets nodes degree (init nodes degree) [] where
  nodup := by simpa [init] using h.nodup.filter _
  waiting := by simp [init]
  counted := by simp [init, into]
  ordered := by simp

variable (targets) in
theorem into_le {sources : List α} (hnodup : sources.Nodup) (hsub : ∀ n ∈ sources, n ∈ nodes)
    (c : α) : into targets sources c ≤ into targets nodes c := by
  obtain ⟨sub, hperm, hsublist⟩ := List.subperm_of_subset hnodup hsub
  unfold into
  rw [← (hperm.map _).sum_eq]
  exact (hsublist.map _).sum_le_sum (fun _ _ => Nat.zero_le _)

theorem into_filter (sources : List α) (c : α) :
    into targets (sources.filter (fun n => c ∈ targets n)) c = into targets sources c := by
  induction sources with
  | nil => rfl
  | cons n sources ih =>
    have hcons : into targets (n :: sources) c = (targets n).count c + into targets sources c := rfl
    by_cases hmem : c ∈ targets n
    · rw [List.filter_cons_of_pos (by simpa using hmem), hcons, ← ih]
      rfl
    · rw [List.filter_cons_of_neg (by simpa using hmem), hcons, List.count_eq_zero.mpr hmem, ih,
        Nat.zero_add]

variable (targets) in
theorem into_snoc_le {n : α} (hnodup : sorted.Nodup) (hsub : ∀ n ∈ sorted, n ∈ nodes)
    (hn : n ∈ nodes) (hout : n ∉ sorted) (c : α) :
    into targets sorted c + (targets n).count c ≤ into targets nodes c := by
  have hsnoc : (sorted ++ [n]).Nodup := by
    rw [List.nodup_append]
    refine ⟨hnodup, by simp, ?_⟩
    intro a ha b hb
    rw [List.mem_singleton] at hb
    rintro rfl
    exact hout (hb ▸ ha)
  have hknown : ∀ m ∈ sorted ++ [n], m ∈ nodes := by
    intro m hm
    rcases List.mem_append.mp hm with hm | hm
    · exact hsub m hm
    · rw [List.mem_singleton.mp hm]
      exact hn
  have hle := into_le targets hsnoc hknown c
  rw [into_append] at hle
  simpa [into] using hle

theorem source_sorted (h : Bounded targets nodes degree) (hnodup : sorted.Nodup)
    (hsub : ∀ n ∈ sorted, n ∈ nodes) (hc : c ∈ nodes) (hcounted : into targets sorted c = degree c)
    {n : α} (hedge : Edge targets nodes n c) : n ∈ sorted := by
  by_contra hout
  have hle := into_snoc_le targets hnodup hsub hedge.1 hout c
  have hpos := List.count_pos_iff.mpr hedge.2
  have henough := h.enough c hc
  omega

theorem Inv.sorted_nodup (h : Inv targets nodes degree st sorted) : sorted.Nodup :=
  (List.nodup_append.mp h.nodup).1

theorem Inv.sorted_known (h : Inv targets nodes degree st sorted) : ∀ n ∈ sorted, n ∈ nodes :=
  fun n hn => ((h.waiting n).mp (List.mem_append_left _ hn)).1

omit [DecidableEq α] in
theorem ordered_snoc {node : α} (h : ∀ l c r, sorted = l ++ c :: r →
    ∀ n, Edge targets nodes n c → n ∈ l) (hnode : ∀ n, Edge targets nodes n node → n ∈ sorted) :
    ∀ l c r, sorted ++ [node] = l ++ c :: r → ∀ n, Edge targets nodes n c → n ∈ l := by
  intro l c r heq n hedge
  rcases List.eq_nil_or_concat r with rfl | ⟨r, last, rfl⟩
  · obtain ⟨rfl, hlast⟩ := List.append_inj' heq rfl
    cases hlast
    exact hnode n hedge
  · have hsplit : sorted ++ [node] = (l ++ c :: r) ++ [last] := by simpa using heq
    exact h l c r (List.append_inj' hsplit rfl).1 n hedge

theorem inv_step (h : Bounded targets nodes degree) {node : α} {queue : List α}
    {left : α → Nat} (hinv : Inv targets nodes degree ⟨left, node :: queue⟩ sorted) :
    (∀ c, (targets node).count c ≤ left c) ∧
      Inv targets nodes degree ((targets node).foldl countOff ⟨left, queue⟩) (sorted ++ [node]) := by
  have hsplit : sorted ++ node :: queue = sorted ++ [node] ++ queue := by simp
  have hnodup := hinv.nodup
  have hwaiting := hinv.waiting
  simp only [hsplit] at hnodup hwaiting
  obtain ⟨hsnoc, -, -⟩ := List.nodup_append.mp hnodup
  have hout : node ∉ sorted :=
    fun hmem => (List.nodup_append.mp hsnoc).2.2 node hmem node (by simp) rfl
  obtain ⟨hnode, hfree⟩ := (hwaiting node).mp (by simp)
  have hle : ∀ c, (targets node).count c ≤ left c := by
    intro c
    by_cases hc : c ∈ nodes
    · have hsum := into_snoc_le targets hinv.sorted_nodup hinv.sorted_known hnode hout c
      have hcounted := hinv.counted c hc
      have henough := h.enough c hc
      simp only at hcounted
      omega
    · rw [List.count_eq_zero.mpr (fun hmem => hc (h.known node hnode c hmem))]
      exact Nat.zero_le _
  refine ⟨hle, ?_⟩
  have hle' : ∀ c, (targets node).count c ≤ (⟨left, queue⟩ : State α).degree c := hle
  obtain ⟨entered, hqueue, hentered, hmem, hdegree⟩ := foldl_countOff (targets node) hle'
  constructor
  · rw [hqueue, ← List.append_assoc, List.nodup_append]
    refine ⟨hnodup, hentered, ?_⟩
    intro a ha b hb
    rintro rfl
    have hzero := ((hwaiting a).mp ha).2
    have hpos := List.count_pos_iff.mpr ((hmem a).mp hb).1
    have hfew := hle a
    omega
  · intro c
    rw [hqueue, ← List.append_assoc, List.mem_append, hwaiting, hmem]
    have hc := hdegree c
    simp only at hc ⊢
    constructor
    · intro h'
      rcases h' with ⟨hc', hzero⟩ | ⟨hmem', hzero⟩
      · exact ⟨hc', by omega⟩
      · exact ⟨h.known node hnode c hmem', hzero⟩
    · intro h'
      by_cases hmem' : c ∈ targets node
      · exact .inr ⟨hmem', h'.2⟩
      · rw [List.count_eq_zero.mpr hmem'] at hc
        exact .inl ⟨h'.1, by omega⟩
  · intro c hc
    have hcounted := hinv.counted c hc
    have hc' := hdegree c
    rw [into_append]
    have hone : into targets [node] c = (targets node).count c := by simp [into]
    simp only at hcounted hc'
    omega
  · apply ordered_snoc hinv.ordered
    intro n hedge
    apply source_sorted h hinv.sorted_nodup hinv.sorted_known hnode _ hedge
    have hcounted := hinv.counted node hnode
    simp only at hcounted hfree
    omega

theorem drain_inv (h : Bounded targets nodes degree) (fuel : Nat)
    (hinv : Inv targets nodes degree st sorted) (hfuel : nodes.length ≤ fuel + sorted.length) :
    Inv targets nodes degree (drain targets fuel st sorted).1 (drain targets fuel st sorted).2 ∧
      (drain targets fuel st sorted).1.queue = [] := by
  induction fuel generalizing st sorted with
  | zero =>
    refine ⟨hinv, ?_⟩
    have hsub : ∀ c ∈ sorted ++ st.queue, c ∈ nodes := fun c hc => ((hinv.waiting c).mp hc).1
    have hlength := (List.subperm_of_subset hinv.nodup hsub).length_le
    rw [List.length_append] at hlength
    exact List.eq_nil_of_length_eq_zero (by simp only [drain]; omega)
  | succ fuel ih =>
    obtain ⟨left, queue⟩ := st
    cases queue with
    | nil => exact ⟨hinv, rfl⟩
    | cons node queue =>
      apply ih (inv_step h hinv).2
      rw [List.length_append, List.length_singleton]
      omega

def countOff? (st : State α) (c : α) : Option (State α) :=
  if st.degree c = 0 then none else some (countOff st c)

def drain? (targets : α → List α) : Nat → State α → List α → Option (State α × List α)
  | 0, st, sorted => some (st, sorted)
  | fuel + 1, st, sorted =>
    match st.queue with
    | [] => some (st, sorted)
    | node :: queue => do
      let st' ← (targets node).foldlM countOff? ⟨st.degree, queue⟩
      drain? targets fuel st' (sorted ++ [node])

theorem foldlM_countOff? (edges : List α) {st : State α} (h : ∀ c, edges.count c ≤ st.degree c) :
    edges.foldlM countOff? st = some (edges.foldl countOff st) := by
  induction edges generalizing st with
  | nil => rfl
  | cons t edges ih =>
    have hone := h t
    rw [List.count_cons_self] at hone
    have hnext := countOff_enough h
    have hfirst : countOff? st t = some (countOff st t) := if_neg (by omega)
    rw [List.foldlM_cons, hfirst]
    exact ih hnext

theorem drain?_eq (h : Bounded targets nodes degree) (fuel : Nat)
    (hinv : Inv targets nodes degree st sorted) :
    drain? targets fuel st sorted = some (drain targets fuel st sorted) := by
  induction fuel generalizing st sorted with
  | zero => rfl
  | succ fuel ih =>
    obtain ⟨left, queue⟩ := st
    cases queue with
    | nil => rfl
    | cons node queue =>
      obtain ⟨hle, hnext⟩ := inv_step h hinv
      simp only [drain?, drain]
      rw [foldlM_countOff? (targets node) hle]
      exact ih hnext

def run (targets : α → List α) (nodes : List α) (degree : α → Nat) : State α × List α :=
  drain targets nodes.length (init nodes degree) []

theorem run_inv (h : Bounded targets nodes degree) :
    Inv targets nodes degree (run targets nodes degree).1 (run targets nodes degree).2 ∧
      (run targets nodes degree).1.queue = [] :=
  drain_inv h _ (inv_init h) (by simp)

theorem edge_before (hnodup : sorted.Nodup)
    (hordered : ∀ l c r, sorted = l ++ c :: r → ∀ n, Edge targets nodes n c → n ∈ l)
    (hc : c ∈ sorted) {n : α} (hedge : Edge targets nodes n c) :
    n ∈ sorted ∧ sorted.idxOf n < sorted.idxOf c := by
  obtain ⟨l, r, rfl⟩ := List.append_of_mem hc
  have hn := hordered l c r rfl n hedge
  have hout : c ∉ l := fun hmem => (List.nodup_append.mp hnodup).2.2 c hmem c (by simp) rfl
  refine ⟨List.mem_append_left _ hn, ?_⟩
  rw [List.idxOf_append_of_mem hn, List.idxOf_append_of_notMem hout, List.idxOf_cons_self]
  exact Nat.lt_of_lt_of_le (List.idxOf_lt_length_of_mem hn) (Nat.le_add_right _ _)

theorem path_before (hnodup : sorted.Nodup)
    (hordered : ∀ l c r, sorted = l ++ c :: r → ∀ n, Edge targets nodes n c → n ∈ l)
    {n : α} (hpath : Relation.TransGen (Edge targets nodes) n c) (hc : c ∈ sorted) :
    n ∈ sorted ∧ sorted.idxOf n < sorted.idxOf c := by
  induction hpath with
  | single hedge => exact edge_before hnodup hordered hc hedge
  | tail _ hedge ih =>
    obtain ⟨hmid, hlt⟩ := edge_before hnodup hordered hc hedge
    obtain ⟨hn, hlt'⟩ := ih hmid
    exact ⟨hn, hlt'.trans hlt⟩

theorem Inv.not_onCycle (h : Inv targets nodes degree st sorted) (hc : c ∈ sorted) :
    ¬ OnCycle targets nodes c :=
  fun hcycle => Nat.lt_irrefl _ (path_before h.sorted_nodup h.ordered hcycle hc).2

theorem exists_cycle {P : α → Prop} (hP : ∀ c, P c → c ∈ nodes ∧ ∃ n, P n ∧ Edge targets nodes n c)
    (hc : P c) : ∃ z, OnCycle targets nodes z ∧ Relation.ReflTransGen (Edge targets nodes) z c := by
  classical
  choose! back hback using fun c (h : P c) => (hP c h).2
  have hwalk : ∀ k, P (back^[k] c) := by
    intro k
    induction k with
    | zero => exact hc
    | succ k ih =>
      rw [Function.iterate_succ_apply']
      exact (hback _ ih).1
  have hstep : ∀ k, Edge targets nodes (back^[k + 1] c) (back^[k] c) := by
    intro k
    rw [Function.iterate_succ_apply']
    exact (hback _ (hwalk k)).2
  have hpath : ∀ m j, Relation.ReflTransGen (Edge targets nodes) (back^[m + j] c) (back^[m] c) := by
    intro m j
    induction j with
    | zero => exact .refl
    | succ j ih => exact .head (hstep (m + j)) ih
  have hmeet : ∀ m k, m < k → back^[m] c = back^[k] c →
      ∃ z, OnCycle targets nodes z ∧ Relation.ReflTransGen (Edge targets nodes) z c := by
    intro m k hlt heq
    obtain ⟨j, rfl⟩ := Nat.exists_eq_add_of_lt hlt
    refine ⟨back^[m] c, ?_, by simpa using hpath 0 m⟩
    have hback : Relation.TransGen (Edge targets nodes) (back^[m + j + 1] c) (back^[m] c) :=
      .head' (hstep (m + j)) (hpath m j)
    rwa [← heq] at hback
  -- the walk meets itself, as the nodes are finitely many
  obtain ⟨m, k, hne, heq⟩ := Finite.exists_ne_map_eq_of_infinite
    (fun k => (⟨back^[k] c, (hP _ (hwalk k)).1⟩ : {a // a ∈ nodes}))
  rw [Subtype.mk.injEq] at heq
  rcases Nat.lt_or_gt_of_ne hne with hlt | hlt
  · exact hmeet m k hlt heq
  · exact hmeet k m hlt heq.symm

theorem left_over_iff (h : Bounded targets nodes degree) (hinv : Inv targets nodes degree st sorted)
    (hqueue : st.queue = []) (hexact : ∀ c ∈ nodes, into targets nodes c = degree c)
    (hc : c ∈ nodes) :
    c ∉ sorted ↔
      ∃ z, OnCycle targets nodes z ∧ Relation.ReflTransGen (Edge targets nodes) z c := by
  constructor
  · intro hout
    apply exists_cycle (P := fun c => c ∈ nodes ∧ c ∉ sorted) _ ⟨hc, hout⟩
    intro c hc
    refine ⟨hc.1, ?_⟩
    have hdegree : st.degree c ≠ 0 := by
      intro hzero
      have hmem := (hinv.waiting c).mpr ⟨hc.1, hzero⟩
      rw [hqueue, List.append_nil] at hmem
      exact hc.2 hmem
    by_contra hnone
    have hsources : ∀ n ∈ nodes.filter (fun n => c ∈ targets n), n ∈ sorted := by
      intro n hn
      obtain ⟨hn, hmem⟩ := List.mem_filter.mp hn
      by_contra hout
      exact hnone ⟨n, ⟨hn, hout⟩, hn, by simpa using hmem⟩
    have hle := into_le targets (h.nodup.filter _) hsources c
    have hcounted := hinv.counted c hc.1
    rw [into_filter, hexact c hc.1] at hle
    omega
  · intro hcycle hmem
    obtain ⟨z, hz, hpath⟩ := hcycle
    rcases Relation.reflTransGen_iff_eq_or_transGen.mp hpath with rfl | hpath
    · exact hinv.not_onCycle hmem hz
    · exact hinv.not_onCycle (path_before hinv.sorted_nodup hinv.ordered hpath hmem).1 hz

theorem complete_iff (h : Bounded targets nodes degree) (hinv : Inv targets nodes degree st sorted)
    (hqueue : st.queue = []) (hexact : ∀ c ∈ nodes, into targets nodes c = degree c) :
    (∀ c ∈ nodes, c ∈ sorted) ↔ ∀ c, ¬ OnCycle targets nodes c := by
  constructor
  · intro hall c hcycle
    have hc : c ∈ nodes := by
      obtain ⟨n, hedge, -⟩ := Relation.TransGen.head'_iff.mp hcycle
      exact hedge.1
    exact hinv.not_onCycle (hall c hc) hcycle
  · intro hnone c hc
    by_contra hout
    obtain ⟨z, hz, -⟩ := (left_over_iff h hinv hqueue hexact hc).mp hout
    exact hnone z hz

theorem Inv.not_sorted (h : Inv targets nodes degree st sorted) (hc : c ∈ nodes)
    (hexcess : into targets nodes c < degree c) : c ∉ sorted := by
  intro hmem
  have hzero := ((h.waiting c).mp (List.mem_append_left _ hmem)).2
  have hcounted := h.counted c hc
  have hle := into_le targets h.sorted_nodup h.sorted_known c
  omega

theorem Inv.complete_iff_length (h : Inv targets nodes degree st sorted) (hnodes : nodes.Nodup) :
    nodes.length ≤ sorted.length ↔ ∀ c ∈ nodes, c ∈ sorted := by
  constructor
  · intro hlength c hc
    have hperm := (List.subperm_of_subset h.sorted_nodup h.sorted_known).perm_of_length_le hlength
    exact hperm.mem_iff.mpr hc
  · exact fun hall => (List.subperm_of_subset hnodes hall).length_le

variable (deps : α → List α)

/-- `node` has left the queue: every candidate that depends on it counts one less. -/
def release (node : α) : List α → State α → State α
  | [], st => st
  | c :: candidates, st =>
    if node ∈ deps c then
      let left := st.degree c - 1
      release node candidates
        ⟨Function.update st.degree c left, if left = 0 then st.queue ++ [c] else st.queue⟩
    else release node candidates st

/-- At most `fuel` nodes leave the queue. -/
def loop (candidates : List α) : Nat → State α → List α → List α
  | 0, _, sorted => sorted
  | fuel + 1, st, sorted =>
    match st.queue with
    | [] => sorted
    | node :: queue =>
      loop candidates fuel (release deps node candidates ⟨st.degree, queue⟩) (sorted ++ [node])

def start (nodes : List α) : State α :=
  ⟨fun c => (deps c).length, nodes.filter (fun c => (deps c).length = 0)⟩

/-- The nodes in an order of dependencies; `nodes` and `candidates` are two orders of them. -/
def sort (nodes candidates : List α) : List α :=
  loop deps candidates nodes.length (start deps nodes) []

def dependents (candidates : List α) (node : α) : List α :=
  candidates.filter (fun c => node ∈ deps c)

variable {candidates : List α}

theorem release_eq (node : α) (candidates : List α) (st : State α) :
    release deps node candidates st = (dependents deps candidates node).foldl countOff st := by
  unfold dependents
  induction candidates generalizing st with
  | nil => rfl
  | cons c candidates ih =>
    by_cases hdep : node ∈ deps c
    · rw [release, if_pos hdep, List.filter_cons_of_pos (by simpa using hdep), List.foldl_cons]
      exact ih _
    · rw [release, if_neg hdep, List.filter_cons_of_neg (by simpa using hdep), ih]

theorem loop_eq (fuel : Nat) (st : State α) (sorted : List α) :
    loop deps candidates fuel st sorted = (drain (dependents deps candidates) fuel st sorted).2 := by
  induction fuel generalizing st sorted with
  | zero => rfl
  | succ fuel ih =>
    obtain ⟨left, queue⟩ := st
    cases queue with
    | nil => rfl
    | cons node queue => simp only [loop, drain, release_eq, ih]

theorem sort_eq (nodes : List α) :
    sort deps nodes candidates =
      (run (dependents deps candidates) nodes (fun c => (deps c).length)).2 := loop_eq deps _ _ _

theorem into_dependents (hcandidates : candidates.Nodup) (hc : c ∈ candidates) (nodes : List α) :
    into (dependents deps candidates) nodes c = (nodes.filter (fun n => n ∈ deps c)).length := by
  induction nodes with
  | nil => rfl
  | cons n nodes ih =>
    have hcons : into (dependents deps candidates) (n :: nodes) c =
        (dependents deps candidates n).count c + into (dependents deps candidates) nodes c := rfl
    rw [hcons, ih]
    by_cases hdep : n ∈ deps c
    · have hone : (dependents deps candidates n).count c = 1 :=
        List.count_eq_one_of_mem (hcandidates.filter _) (List.mem_filter.mpr ⟨hc, by simpa using hdep⟩)
      rw [List.filter_cons_of_pos (by simpa using hdep), hone, List.length_cons, Nat.add_comm]
    · have hnone : (dependents deps candidates n).count c = 0 :=
        List.count_eq_zero.mpr (fun hmem => hdep (by simpa using (List.mem_filter.mp hmem).2))
      rw [List.filter_cons_of_neg (by simpa using hdep), hnone, Nat.zero_add]

theorem bounded_dependents (hnodes : nodes.Nodup) (hcandidates : candidates.Nodup)
    (hsame : ∀ c, c ∈ candidates ↔ c ∈ nodes) :
    Bounded (dependents deps candidates) nodes (fun c => (deps c).length) where
  nodup := hnodes
  known := fun _ _ c hc => (hsame c).mp (List.mem_filter.mp hc).1
  enough := by
    intro c hc
    rw [into_dependents deps hcandidates ((hsame c).mpr hc)]
    apply (List.subperm_of_subset (hnodes.filter _) _).length_le
    intro n hn
    simpa using (List.mem_filter.mp hn).2

theorem into_dependents_eq_iff (hnodes : nodes.Nodup) (hcandidates : candidates.Nodup)
    (hc : c ∈ candidates) (hknown : ∀ d ∈ deps c, d ∈ nodes) :
    into (dependents deps candidates) nodes c = (deps c).length ↔ (deps c).Nodup := by
  rw [into_dependents deps hcandidates hc]
  have hsub : nodes.filter (fun n => n ∈ deps c) ⊆ deps c :=
    fun n hn => by simpa using (List.mem_filter.mp hn).2
  have hsubperm := List.subperm_of_subset (hnodes.filter _) hsub
  constructor
  · intro hlength
    exact (hsubperm.perm_of_length_le hlength.ge).nodup_iff.mp (hnodes.filter _)
  · intro hnodup
    have hback : deps c ⊆ nodes.filter (fun n => n ∈ deps c) :=
      fun d hd => List.mem_filter.mpr ⟨hknown d hd, by simpa using hd⟩
    exact Nat.le_antisymm hsubperm.length_le (List.subperm_of_subset hnodup hback).length_le

end Kahn
