import GroupPolicy.Proofs.Ordered.Prefix
import GroupPolicy.Proofs.Policy.Sample
import GroupPolicy.Proofs.Render.Provenance

namespace GroupPolicy

/-- No entry of a policy stands behind one that denies the traffic of a subnet. -/
def InOrder (l : List SourcedEntry) : Prop :=
  l.Pairwise fun a b => ¬(a.origin = .subnet ∧ b.origin = .policy)

instance (l : List SourcedEntry) : Decidable (InOrder l) := inferInstanceAs (Decidable (l.Pairwise _))

/-- The names of planned entries stand in front of every denial, except where the denial itself is
the first entry of a planned name and so is replaced. -/
def StaysInFront (names : List String) (l : List SourcedEntry) : Prop :=
  ∀ front x back, l = front ++ x :: back → x.origin = .subnet →
    (∀ n ∈ names, n ∈ front.map (·.entry.name)) ∨
      (x.entry.name ∈ names ∧ x.entry.name ∉ front.map (·.entry.name))

namespace StaysInFront

variable {names : List String} {x : SourcedEntry} {r : List SourcedEntry}

/-- What the first entry of a list and the rest of it have to do with the order after a write. -/
theorem cons_iff : StaysInFront names (x :: r) ↔
    (x.origin = .subnet → names = [] ∨ x.entry.name ∈ names) ∧
      ∀ front y back, r = front ++ y :: back → y.origin = .subnet →
        (∀ n ∈ names, n = x.entry.name ∨ n ∈ front.map (·.entry.name)) ∨
          (y.entry.name ∈ names ∧ y.entry.name ≠ x.entry.name ∧
            y.entry.name ∉ front.map (·.entry.name)) := by
  constructor
  · intro h
    refine ⟨fun hx => ?_, fun front y back heq hy => ?_⟩
    · rcases h [] x r rfl hx with hnames | ⟨hmem, -⟩
      · exact .inl (List.eq_nil_iff_forall_not_mem.mpr fun n hn => nomatch hnames n hn)
      · exact .inr hmem
    · have hstays := h (x :: front) y back (by rw [heq, List.cons_append]) hy
      simpa only [List.map_cons, List.mem_cons, not_or] using hstays
  · rintro ⟨hhead, htail⟩ front y back heq hy
    cases front with
    | nil =>
      obtain ⟨rfl, rfl⟩ := List.cons.inj heq
      rcases hhead hy with rfl | hmem
      · exact .inl fun n hn => nomatch hn
      · exact .inr ⟨hmem, fun h => nomatch h⟩
    | cons z front =>
      obtain ⟨rfl, rfl⟩ := List.cons.inj heq
      simpa only [List.map_cons, List.mem_cons, not_or] using htail front y back rfl hy

theorem cons_of_mem (hmem : x.entry.name ∈ names) :
    StaysInFront names (x :: r) ↔ StaysInFront (names.filter fun n => n ≠ x.entry.name) r := by
  rw [cons_iff, StaysInFront]
  simp only [List.mem_filter, ne_eq, decide_not, Bool.not_eq_true', decide_eq_false_iff_not, and_imp,
    hmem, or_true, implies_true, true_and, and_assoc]
  have hnames (front : List SourcedEntry) :
      (∀ n ∈ names, n = x.entry.name ∨ n ∈ front.map (·.entry.name)) ↔
        ∀ n ∈ names, ¬n = x.entry.name → n ∈ front.map (·.entry.name) :=
    forall₂_congr fun n _ => or_iff_not_imp_left
  simp only [hnames]

theorem cons_of_not_mem (hmem : x.entry.name ∉ names) :
    StaysInFront names (x :: r) ↔ (x.origin = .subnet → names = []) ∧ StaysInFront names r := by
  rw [cons_iff, StaysInFront]
  have hne {n : String} (hn : n ∈ names) : n ≠ x.entry.name := fun heq => hmem (heq ▸ hn)
  have hnames (front : List SourcedEntry) :
      (∀ n ∈ names, n = x.entry.name ∨ n ∈ front.map (·.entry.name)) ↔
        ∀ n ∈ names, n ∈ front.map (·.entry.name) :=
    forall₂_congr fun n hn => or_iff_right (hne hn)
  have hreplaced (front : List SourcedEntry) (y : SourcedEntry) :
      (y.entry.name ∈ names ∧ y.entry.name ≠ x.entry.name ∧
          y.entry.name ∉ front.map (·.entry.name)) ↔
        y.entry.name ∈ names ∧ y.entry.name ∉ front.map (·.entry.name) :=
    and_congr_right fun hy => and_iff_right (hne hy)
  simp only [hmem, or_false, hnames, hreplaced]

end StaysInFront

namespace SourcedEntry

variable {es : List AclEntry} {x : SourcedEntry} {r : List SourcedEntry}

/-- An entry of another name than those that are written stays where it is. -/
theorem write_cons_of_not_mem (h : x.entry.name ∉ es.map AclEntry.name) :
    write es (x :: r) = x :: write es r := by
  induction es generalizing r with
  | nil => rfl
  | cons e rest ih =>
    rw [List.map_cons, List.mem_cons, not_or] at h
    change write rest (put ⟨e, .policy⟩ (x :: r)) = x :: write rest (put ⟨e, .policy⟩ r)
    rw [put, if_neg h.1, ih h.2]

/-- An entry of a name that is written gives way to one of a policy, and only the entries of other
names go to the rest of the list. -/
theorem write_cons_of_mem (h : x.entry.name ∈ es.map AclEntry.name) :
    ∃ e, write es (x :: r) =
      ⟨e, .policy⟩ :: write (es.filter fun e => e.name ≠ x.entry.name) r := by
  induction es generalizing x r with
  | nil => cases h
  | cons e rest ih =>
    change ∃ e', write rest (put ⟨e, .policy⟩ (x :: r)) = _
    by_cases heq : x.entry.name = e.name
    · rw [put, if_pos heq, List.filter_cons_of_neg (by simp [heq]), heq]
      by_cases hrest : e.name ∈ rest.map AclEntry.name
      · exact ih (x := ⟨e, .policy⟩) hrest
      · have hall : (rest.filter fun e' => e'.name ≠ e.name) = rest := by
          refine List.filter_eq_self.mpr fun e' he' => decide_eq_true ?_
          exact fun hname => hrest (List.mem_map.mpr ⟨e', he', hname⟩)
        rw [hall]
        exact ⟨e, write_cons_of_not_mem (x := ⟨e, .policy⟩) hrest⟩
    · have hrest : x.entry.name ∈ rest.map AclEntry.name := by
        rcases List.mem_cons.mp h with h | h
        · exact absurd h heq
        · exact h
      rw [put, if_neg heq, List.filter_cons_of_pos (by simpa using Ne.symm heq)]
      exact ih hrest

/-- Whatever is written to a list, some entry of a policy is there afterwards. -/
theorem exists_policy_write (h : es ≠ []) (l : List SourcedEntry) :
    ∃ x ∈ write es l, x.origin = .policy := by
  obtain ⟨rest, e, rfl⟩ := (List.eq_nil_or_concat es).resolve_left h
  refine ⟨⟨e, .policy⟩, ?_, rfl⟩
  rw [write, List.concat_eq_append, List.foldl_append]
  exact mem_put_self _ _

end SourcedEntry

/-- A write keeps a list in order exactly if the names of its entries stay in front. -/
theorem inOrder_write_iff {l : List SourcedEntry} (h : InOrder l) (es : List AclEntry) :
    InOrder (SourcedEntry.write es l) ↔ StaysInFront (es.map AclEntry.name) l := by
  induction l generalizing es with
  | nil =>
    refine iff_of_true (List.pairwise_of_forall_mem_list fun a ha b _ => ?_) ?_
    · rcases SourcedEntry.mem_write ha with ha | ⟨e, -, rfl⟩
      · cases ha
      · rintro ⟨hsubnet, -⟩
        cases hsubnet
    · intro front x back heq
      cases front with
      | nil => cases heq
      | cons z front => cases heq
  | cons x r ih =>
    obtain ⟨hhead, htail⟩ := List.pairwise_cons.mp h
    by_cases hmem : x.entry.name ∈ es.map AclEntry.name
    · obtain ⟨e, hwrite⟩ := SourcedEntry.write_cons_of_mem (r := r) hmem
      have hnames : (es.filter fun e => e.name ≠ x.entry.name).map AclEntry.name =
          (es.map AclEntry.name).filter fun n => n ≠ x.entry.name := by
        rw [List.filter_map]
        rfl
      -- The head becomes an entry of a policy, which may stand in front of anything.
      rw [hwrite, StaysInFront.cons_of_mem hmem, ← hnames, ← ih htail, InOrder, List.pairwise_cons]
      refine and_iff_right fun y _ => ?_
      rintro ⟨hsubnet, -⟩
      cases hsubnet
    -- The head stays, so if it is a denial, nothing at all may be written behind it.
    · rw [SourcedEntry.write_cons_of_not_mem hmem, StaysInFront.cons_of_not_mem hmem, ← ih htail,
        InOrder, List.pairwise_cons]
      refine and_congr_left fun _ => ?_
      constructor
      · intro hall hsubnet
        by_contra hes
        have hnonempty : es ≠ [] := fun hnil => hes (List.map_eq_nil_iff.mpr hnil)
        obtain ⟨y, hy, hpolicy⟩ := SourcedEntry.exists_policy_write hnonempty r
        exact hall y hy ⟨hsubnet, hpolicy⟩
      · rintro hes y hy ⟨hsubnet, hpolicy⟩
        rw [List.map_eq_nil_iff.mp (hes hsubnet)] at hy
        exact hhead y hy ⟨hsubnet, hpolicy⟩

/-- A list has its entries in order when it is rendered. -/
theorem inOrder_sourcedEntries (c : Context) (g : Grouping) (settings : AclSettings) (owner : Endpoint)
    (d : AclDirection) : InOrder (c.sourcedEntries g settings owner d) := by
  have horigin {origin : Origin} {l : List AclEntry} {x : SourcedEntry}
      (hx : x ∈ l.map fun e => SourcedEntry.mk e origin) : x.origin = origin := by
    obtain ⟨e, -, rfl⟩ := List.mem_map.mp hx
    rfl
  refine List.pairwise_append.mpr ⟨?_, List.pairwise_append.mpr ⟨?_, ?_, ?_⟩, ?_⟩
  · refine List.pairwise_of_forall_mem_list fun a ha b _ => ?_
    simp [horigin ha]
  · refine List.pairwise_of_forall_mem_list fun a _ b hb => ?_
    simp [horigin hb]
  · refine List.pairwise_of_forall_mem_list fun a ha b _ => ?_
    simp [horigin ha]
  · intro a _ b hb
    simp [horigin hb]
  · intro a ha b _
    simp [horigin ha]

/-- A write finds the names of its entries in front on every list that it reaches; other operations
do not matter. -/
def Operation.StaysInFront (s : Tracked) : Operation → Prop
  | .sync .write p => ∀ t, s.renderer.device.unreachable.mem t.node = false →
      GroupPolicy.StaysInFront ((p.plan.getD t []).map AclEntry.name) (s.ledger t)
  | _ => True

namespace Tracked

variable {s : Tracked}

theorem inOrder_amend (hs : ∀ t, InOrder (s.ledger t)) {r : Renderer}
    {change : AclTarget → List SourcedEntry → List SourcedEntry}
    (hchange : ∀ t, InOrder (change t (s.ledger t))) (t : AclTarget) :
    InOrder ((s.amend r change).ledger t) := by
  rw [amend]
  dsimp only
  split
  · exact hs t
  · exact hchange t

theorem inOrder_update (hs : ∀ t, InOrder (s.ledger t)) (c : Context) (k : EndpointKey)
    (t : AclTarget) : InOrder ((s.update c k).ledger t) := by
  refine inOrder_amend hs (fun t => ?_) t
  cases s.renderer.subject? c k t with
  | none => exact hs t
  | some found => exact inOrder_sourcedEntries _ _ _ _ _

/-- An operation keeps all lists in order exactly if the names of the entries that it writes stay in
front. -/
theorem inOrder_perform_iff (hs : ∀ t, InOrder (s.ledger t)) (op : Operation) :
    (∀ t, InOrder ((s.perform op).ledger t)) ↔ op.StaysInFront s := by
  cases op with
  | regroup c => exact iff_of_true hs trivial
  | resolve c k => exact iff_of_true hs trivial
  | update c k => exact iff_of_true (inOrder_update hs c k) trivial
  | updatePeers c k =>
    refine iff_of_true ?_ trivial
    exact List.foldlRecOn (motive := fun s : Tracked => ∀ t, InOrder (s.ledger t)) _ _ hs
      fun s hs j _ => inOrder_update hs c j
  | plan c ch => exact iff_of_true hs trivial
  | sync mode p =>
    cases mode with
    | write =>
      refine forall_congr' fun t => ?_
      rw [perform, amend]
      dsimp only
      cases hreach : s.renderer.device.unreachable.mem t.node with
      | true =>
        refine iff_of_true (hs t) fun h => ?_
        cases h
      | false => exact (inOrder_write_iff (hs t) _).trans ⟨fun h _ => h, fun h => h rfl⟩
    | remove =>
      refine iff_of_true (fun t => inOrder_amend hs (fun t => ?_) t) trivial
      exact (hs t).sublist List.filter_sublist

theorem inOrder_run_iff (hs : ∀ t, InOrder (s.ledger t)) (ops : List Operation) :
    (∀ done, done <+: ops → ∀ t, InOrder ((s.run done).ledger t)) ↔
      ∀ done op, done ++ [op] <+: ops → op.StaysInFront (s.run done) := by
  let Kept (s : Tracked) : Prop := ∀ t, InOrder (s.ledger t)
  have hstep (s : Tracked) (op : Operation) (hs : Kept s) : Kept (s.perform op) ↔ op.StaysInFront s :=
    inOrder_perform_iff hs op
  exact forall_prefix_foldl_iff hstep hs ops

end Tracked

/-- The ledger follows every run of a renderer: it lists what the devices hold, and where each entry
comes from. All lists have their policies in front of the denials throughout the run exactly if every
write on the way finds the names of its entries in front. -/
theorem match_order_iff (settings : Settings) (unreachable : SortedSet String)
    (ops : List Operation) :
    let state := (Tracked.fresh settings unreachable).run
    (∀ done, (state done).renderer =
        Renderer.run { settings, device := { unreachable } } done ∧ (state done).Faithful) ∧
      ((∀ done, done <+: ops → ∀ t, InOrder ((state done).ledger t)) ↔
        ∀ done op, done ++ [op] <+: ops → op.StaysInFront (state done)) := by
  refine ⟨fun done => ⟨Tracked.renderer_run _ done, ?_⟩, ?_⟩
  · exact Tracked.faithful_run (.fresh settings unreachable) done
  · exact Tracked.inOrder_run_iff (s := .fresh settings unreachable) (fun t => List.Pairwise.nil) ops

/-- A server is rendered with one rule group and a denial, and then the entry of another group is
written: it lands behind the denial. -/
theorem not_inOrder_every_run :
    ¬∀ (settings : Settings) (unreachable : SortedSet String) (ops : List Operation) (t : AclTarget),
      InOrder (((Tracked.fresh settings unreachable).run ops).ledger t) := by
  intro h
  have hlast := h {} ∅ [.update Sample.before Sample.server.key,
    .sync .write ⟨_, {}, Sample.after, { ruleGroups := Sample.changed }, rfl⟩]
    (.ofLocation Sample.serverLocation .ingress)
  revert hlast
  decide +kernel

end GroupPolicy
