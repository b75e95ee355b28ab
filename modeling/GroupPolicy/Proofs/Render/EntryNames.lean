import GroupPolicy.Proofs.Render.Effects
import GroupPolicy.Proofs.Render.Sites
import GroupPolicy.Text.Split
import Mathlib.Data.List.Pairwise

namespace GroupPolicy

/-- The parts of an entry's name can be told from it if the addresses have no separator in them. -/
theorem entryName_inj {rule rule' owner owner' peer peer' : String} (howner : '_' ∉ owner.toList)
    (howner' : '_' ∉ owner'.toList) (hpeer : '_' ∉ peer.toList) (hpeer' : '_' ∉ peer'.toList) :
    rule ++ "_" ++ owner ++ "_" ++ peer = rule' ++ "_" ++ owner' ++ "_" ++ peer' ↔
      rule = rule' ∧ owner = owner' ∧ peer = peer' := by
  have hlast {a a' : List Char} {b b' : String} (hb : '_' ∉ b.toList) (hb' : '_' ∉ b'.toList)
      (h : a ++ '_' :: b.toList = a' ++ '_' :: b'.toList) : a = a' ∧ b = b' := by
    have hsplit := Text.splitLast_append a hb
    rw [h, Text.splitLast_append a' hb'] at hsplit
    obtain ⟨rfl, htext⟩ := Prod.mk.inj (Option.some.inj hsplit)
    exact ⟨rfl, (String.toList_inj.mp htext).symm⟩
  have hchars (rule owner peer : String) : (rule ++ "_" ++ owner ++ "_" ++ peer).toList =
      (rule.toList ++ '_' :: owner.toList) ++ '_' :: peer.toList := by
    simp [String.toList_append]
  constructor
  · intro h
    have htexts := congrArg String.toList h
    rw [hchars, hchars] at htexts
    obtain ⟨hfront, rfl⟩ := hlast hpeer hpeer' htexts
    obtain ⟨hrule, rfl⟩ := hlast howner howner' hfront
    exact ⟨String.toList_inj.mp hrule, rfl, rfl⟩
  · rintro ⟨rfl, rfl, rfl⟩
    rfl

namespace Acl

variable {l rest : List AclEntry} {x y : AclEntry}

/-- Looking up the name of an entry finds it, if names tell the entries in front apart. -/
theorem find?_name (hnames : (l.map AclEntry.name).Nodup) (hx : x ∈ l) :
    (l ++ rest).find? (fun e => e.name == x.name) = some x := by
  induction l with
  | nil => cases hx
  | cons z r ih =>
    rw [List.cons_append, List.find?_cons]
    by_cases hz : z.name = x.name
    · have heq : z = x := List.inj_on_of_nodup_map hnames List.mem_cons_self hx hz
      rw [hz, beq_self_eq_true, heq]
    · have hr : x ∈ r := (List.mem_cons.mp hx).resolve_left fun heq => hz (heq ▸ rfl)
      rw [beq_eq_false_iff_ne.mpr hz]
      exact ih (List.nodup_cons.mp hnames).2 hr

/-- Putting an entry under the name of another one replaces that one. -/
theorem putEntry_of_name (hnames : (l.map AclEntry.name).Nodup) (hx : x ∈ l) (hy : y.name = x.name) :
    putEntry y (l ++ rest) = l.map (fun z => if z = x then y else z) ++ rest := by
  induction l with
  | nil => cases hx
  | cons z r ih =>
    obtain ⟨hhead, htail⟩ := List.nodup_cons.mp hnames
    rw [List.cons_append, putEntry, List.map_cons, List.cons_append]
    by_cases hz : z.name = y.name
    · have heq : z = x := List.inj_on_of_nodup_map hnames List.mem_cons_self hx (hz.trans hy)
      subst heq
      have hothers : ∀ w ∈ r, (if w = z then y else w) = w := fun w hw =>
        if_neg fun (heq : w = z) => hhead (heq ▸ List.mem_map_of_mem hw)
      have hsame : r.map (fun w => if w = z then y else w) = r :=
        (List.map_congr_left hothers).trans (List.map_id r)
      rw [if_pos hz, if_pos rfl, hsame]
    · have hne : z ≠ x := fun heq => hz (heq ▸ hy.symm)
      have hr : x ∈ r := (List.mem_cons.mp hx).resolve_left (Ne.symm hne)
      rw [if_neg hz, if_neg hne, ih htail hr]

/-- Removing an entry by its name removes this entry alone. -/
theorem remove_edit_singleton (hnames : (l.map AclEntry.name).Nodup) (hx : x ∈ l) :
    SyncMode.remove.edit [x] l = l.erase x := by
  have hplanned : ∀ e ∈ [x], e ∈ l := fun e he => List.mem_singleton.mp he ▸ hx
  rw [SyncMode.remove_edit_eq_filter hnames hplanned, (List.Nodup.of_map _ hnames).erase_eq_filter]
  refine List.filter_congr fun z _ => ?_
  rw [Bool.eq_iff_iff]
  simp

end Acl

namespace Site

/-- What the name of a site's entry tells: the rule and the addresses of both ends. -/
def nameParts? (s : Site) : Option (String × String × String) :=
  s.policy.group.rules[s.position]?.map fun rule => (rule.name, s.owner.address, s.peer.address)

/-- The name of a site's entry. -/
def entryName? (s : Site) : Option String :=
  s.nameParts?.map fun (rule, owner, peer) => rule ++ "_" ++ owner ++ "_" ++ peer

end Site

namespace Context

/-- Whether no endpoint that is known has an address with the separator of names in it. -/
def HasPlainAddresses (c : Context) : Prop := ∀ e ∈ c.endpoints.values, '_' ∉ e.key.address.toList

theorem HasPlainAddresses.not_mem {c : Context} (h : c.HasPlainAddresses) {k : EndpointKey}
    {e : Endpoint} (he : c.endpoint? k = some e) : '_' ∉ k.address.toList := by
  have hkey := key_of_endpoint? he
  rw [← hkey] at he ⊢
  exact h e (Registry.mem_values_iff.mpr he)

/-- Whether on the interface of an endpoint everything has a name of its own: the endpoints there, the
peers of each of them, and the rules of all policies towards each peer. -/
structure IsToldApart (c : Context) (k : EndpointKey) : Prop where
  owners : ∀ i ∈ c.interfaceKeys k, ∀ j ∈ c.interfaceKeys k, i.address = j.address → i = j
  peers : ∀ owner ∈ c.interfaceKeys k, ∀ p ∈ (c.table.row owner).keys,
    ∀ q ∈ (c.table.row owner).keys, p.address = q.address → p = q
  rules : ∀ owner ∈ c.interfaceKeys k, ∀ p ∈ (c.table.row owner).keys,
    ((c.table.policies owner p).flatMap fun policy => policy.group.rules.map Rule.name).Nodup

end Context

/-- Rules of one cell with the same name are the same, if all rules of the cell have different names. -/
theorem AppliedPolicy.eq_of_rule_name {cell : List AppliedPolicy}
    (hnames : (cell.flatMap fun policy => policy.group.rules.map Rule.name).Nodup)
    {policy policy' : AppliedPolicy} (hpolicy : policy ∈ cell) (hpolicy' : policy' ∈ cell) {i i' : Nat}
    {rule rule' : Rule} (hrule : policy.group.rules[i]? = some rule)
    (hrule' : policy'.group.rules[i']? = some rule') (hname : rule.name = rule'.name) :
    policy = policy' ∧ i = i' := by
  obtain ⟨hwithin, hacross⟩ := List.nodup_flatMap.mp hnames
  have hmem := List.mem_map_of_mem (f := Rule.name) (List.mem_of_getElem? hrule)
  have hmem' := List.mem_map_of_mem (f := Rule.name) (List.mem_of_getElem? hrule')
  have hsame : policy = policy' := by
    by_contra hne
    have : Std.Symm (Function.onFun List.Disjoint fun policy : AppliedPolicy =>
        policy.group.rules.map Rule.name) := ⟨fun _ _ h => List.disjoint_symm h⟩
    have hdisjoint := hacross.forall hpolicy hpolicy' hne
    exact hdisjoint hmem (hname ▸ hmem')
  subst hsame
  refine ⟨rfl, ?_⟩
  have hplace : (policy.group.rules.map Rule.name)[i]? = (policy.group.rules.map Rule.name)[i']? := by
    rw [List.getElem?_map, List.getElem?_map, hrule, hrule', Option.map_some, Option.map_some, hname]
  have hlt : i < (policy.group.rules.map Rule.name).length := by
    rw [List.length_map]
    exact (List.getElem?_eq_some_iff.mp hrule).1
  exact (List.getElem?_inj hlt (hwithin policy hpolicy)).mp hplace

section Names

variable {c : Context} {k : EndpointKey} {e : Endpoint} {d : AclDirection} {s s' : Site} {x : AclEntry}

theorem Site.Renders.entryName?_eq (h : s.Renders c k d x) : s.entryName? = some x.name := by
  obtain ⟨-, rule, hrule, hname⟩ := h.action_name
  rw [Site.entryName?, Site.nameParts?, hrule, hname]
  rfl

/-- Without separators in addresses, names agree if and only if their parts do. -/
theorem Site.IsRendered.entryName?_eq_iff (hplain : c.HasPlainAddresses) (h : s.IsRendered c k d)
    (h' : s'.IsRendered c k d) : s.entryName? = s'.entryName? ↔ s.nameParts? = s'.nameParts? := by
  obtain ⟨owner, peer, rule, _, _, hpasses⟩ := h
  obtain ⟨owner', peer', rule', _, _, hpasses'⟩ := h'
  have hparts (name name' : String) := @entryName_inj name name' _ _ _ _
    (hplain.not_mem hpasses.owner_known) (hplain.not_mem hpasses'.owner_known)
    (hplain.not_mem hpasses.peer_known) (hplain.not_mem hpasses'.peer_known)
  rw [Site.entryName?, Site.entryName?, Site.nameParts?, hpasses.rule_stands, Site.nameParts?,
    hpasses'.rule_stands]
  simpa using hparts rule.name rule'.name

/-- The names of pairwise entries are all different if and only if no two sites that are rendered have
the same one. -/
theorem Context.nodup_names_iff (hc : c.Reachable) (he : c.endpoint? k = some e) (d : AclDirection) :
    ((c.interfaceEntries (.ofContext c) e d).value.map AclEntry.name).Nodup ↔ ∀ s s' : Site,
      s.IsRendered c k d → s'.IsRendered c k d → s.entryName? = s'.entryName? → s = s' := by
  have hsites := nodup_sites hc k d
  rw [← map_snd_sites he d, List.map_map, List.nodup_map_iff_inj_on (List.Nodup.of_map _ hsites)]
  constructor
  · intro hnames s s' hs hs' hname
    obtain ⟨x, hx⟩ := Site.isRendered_iff.mp hs
    obtain ⟨x', hx'⟩ := Site.isRendered_iff.mp hs'
    rw [hx.entryName?_eq, hx'.entryName?_eq] at hname
    have hsame := hnames (s, x) (mem_sites.mpr hx) (s', x') (mem_sites.mpr hx') (Option.some.inj hname)
    exact congrArg Prod.fst hsame
  · rintro hnames ⟨s, x⟩ hsite ⟨s', x'⟩ hsite' hname
    have hx := mem_sites.mp hsite
    have hx' := mem_sites.mp hsite'
    have hsame := hnames s s' (Site.isRendered_iff.mpr ⟨x, hx⟩) (Site.isRendered_iff.mpr ⟨x', hx'⟩)
      (by rw [hx.entryName?_eq, hx'.entryName?_eq]; exact congrArg some hname)
    exact List.inj_on_of_nodup_map hsites hsite hsite' hsame

theorem Context.IsToldApart.eq_of_nameParts? (h : c.IsToldApart k) (hs : s.IsRendered c k d)
    (hs' : s'.IsRendered c k d) (hparts : s.nameParts? = s'.nameParts?) : s = s' := by
  obtain ⟨o, p, policy, i⟩ := s
  obtain ⟨o', p', policy', i'⟩ := s'
  obtain ⟨owner, peer, rule, _, _, hpasses⟩ := hs
  obtain ⟨owner', peer', rule', _, _, hpasses'⟩ := hs'
  have hrule := hpasses.rule_stands
  have hrule' := hpasses'.rule_stands
  rw [Site.nameParts?, hrule, Site.nameParts?, hrule'] at hparts
  obtain ⟨hname, haddresses⟩ := Prod.mk.inj (Option.some.inj hparts)
  obtain ⟨howner, hpeer⟩ := Prod.mk.inj haddresses
  -- The addresses tell the cell, and in the cell the name of the rule tells the policy and the place.
  have hbeside : o ∈ c.interfaceKeys k := Context.mem_interfaceKeys.mpr hpasses.owner_beside
  obtain rfl := h.owners o hbeside o' (Context.mem_interfaceKeys.mpr hpasses'.owner_beside) howner
  have hpolicy := hpasses.policy_applies
  have hpolicy' := hpasses'.policy_applies
  have hcell : p ∈ (c.table.row o).keys :=
    List.mem_map_of_mem (PolicyTable.mem_peers_of_mem_policies hpolicy)
  have hcell' : p' ∈ (c.table.row o).keys :=
    List.mem_map_of_mem (PolicyTable.mem_peers_of_mem_policies hpolicy')
  obtain rfl := h.peers o hbeside p hcell p' hcell' hpeer
  obtain ⟨rfl, rfl⟩ := AppliedPolicy.eq_of_rule_name (h.rules o hbeside p hcell) hpolicy hpolicy' hrule
    hrule' hname
  rfl

end Names

/-- Whether entries can be looked up by their names. The names of the pairwise entries of an interface
are all different if and only if no two rendered sites have the same name, which, if addresses have no
separator in them, is to say that no two agree in the name of the rule and in the addresses of both
ends. For this it is enough that the endpoints of the interface and the peers of each of them have
different addresses, and the rules of all policies between two endpoints have different names. If the
names are all different, then in the whole list looking up, writing and removing the name of a pairwise
entry is about this one and no other pairwise entry. -/
theorem entry_names_identify {c : Context} (hc : c.Reachable) {k : EndpointKey} {e : Endpoint}
    (he : c.endpoint? k = some e) (d : AclDirection) :
    let pairwise := (c.interfaceEntries (.ofContext c) e d).value
    ((pairwise.map AclEntry.name).Nodup ↔ ∀ s s' : Site,
        s.IsRendered c k d → s'.IsRendered c k d → s.entryName? = s'.entryName? → s = s') ∧
      (c.HasPlainAddresses → ∀ s s' : Site, s.IsRendered c k d → s'.IsRendered c k d →
        (s.entryName? = s'.entryName? ↔ s.nameParts? = s'.nameParts?)) ∧
      (c.HasPlainAddresses → c.IsToldApart k → (pairwise.map AclEntry.name).Nodup) ∧
      ((pairwise.map AclEntry.name).Nodup → ∀ x ∈ pairwise, ∀ settings interface,
        let defaults := c.defaultEntries settings e d
        let list : Acl := .ofInterface interface d (pairwise ++ defaults)
        list.entry? x.name = some x ∧
          (∀ y, y.name = x.name → (list.putEntries [y]).entries =
            pairwise.map (fun z => if z = x then y else z) ++ defaults) ∧
          (list.dropEntries [x.name]).entries =
            pairwise.erase x ++ defaults.filter fun z => z.name ≠ x.name) := by
  intro pairwise
  have hiff := Context.nodup_names_iff hc he d
  refine ⟨hiff, fun hplain s s' hs hs' => hs.entryName?_eq_iff hplain hs', fun hplain hapart => ?_,
    fun hnames x hx settings interface => ⟨?_, fun y hy => ?_, ?_⟩⟩
  · exact hiff.mpr fun s s' hs hs' hname =>
      hapart.eq_of_nameParts? hs hs' ((hs.entryName?_eq_iff hplain hs').mp hname)
  · exact Acl.find?_name hnames hx
  · exact Acl.putEntry_of_name hnames hx hy
  · change SyncMode.remove.edit [x] (pairwise ++ c.defaultEntries settings e d) = _
    rw [← Acl.remove_edit_singleton hnames hx, SyncMode.edit, SyncMode.edit, List.filter_append]
    refine congrArg _ (List.filter_congr fun z _ => ?_)
    simp

/-- Two servers on one interface with the rule groups of two subjects: names tell their entries apart,
and removing one of the names leaves the other entries. -/
theorem entry_names_identify_shared :
    let c := (Sample.snapshot [Sample.subnet] [Sample.row "10.0.0.1" "10.0.0.9" "http" .provider,
      Sample.row "10.0.0.1" "10.0.0.9" "ssh" .consumer, Sample.row "10.0.0.2" "10.0.0.9" "http" .provider]).context
    let pairwise := (c.interfaceEntries (.ofContext c) Sample.server .ingress).value
    let list : Acl := .ofInterface "tap0" .ingress (pairwise ++ c.defaultEntries {} Sample.server .ingress)
    (pairwise.map AclEntry.name).Nodup ∧
      ∀ x ∈ pairwise, list.entry? x.name = some x ∧
        ∀ z ∈ pairwise, z ≠ x → z ∈ (list.dropEntries [x.name]).entries := by
  intro c pairwise list
  have hc : c.Reachable := Snapshot.reachable_context _
  obtain ⟨-, -, hapart, hlookup⟩ := entry_names_identify hc (k := Sample.server.key) (e := Sample.server)
    (by decide +kernel) .ingress
  have hplain : c.HasPlainAddresses := by
    unfold Context.HasPlainAddresses
    decide +kernel
  have hnames := hapart hplain ⟨by decide +kernel, by decide +kernel, by decide +kernel⟩
  refine ⟨hnames, fun x hx => ?_⟩
  obtain ⟨hentry, -, hdrop⟩ := hlookup hnames x hx {} "tap0"
  refine ⟨hentry, fun z hz hne => ?_⟩
  rw [hdrop]
  exact List.mem_append_left _ ((List.mem_erase_of_ne hne).mpr hz)

/-- Two rule groups of one rule each, which have the same name, between the same endpoints: both rules
have an entry under one name, and removing it for one of the groups removes both. -/
theorem not_entry_names_unique :
    let web (subject : String) (port : Int64) : RuleGroup :=
      { Sample.group subject port with rules := [Sample.rule "web" port] }
    let s : Snapshot := { Sample.snapshot [] [Sample.row "10.0.0.1" "10.0.0.9" "http" .provider,
      Sample.row "10.0.0.1" "10.0.0.9" "ssh" .provider] with ruleGroups := [web "http" 80, web "ssh" 22] }
    let c := s.context
    let pairwise := (c.interfaceEntries (.ofContext c) Sample.server .ingress).value
    c.Reachable ∧ (∀ g ∈ c.ruleGroups.values, (g.rules.map Rule.name).Nodup) ∧
      c.endpoint? Sample.server.key = some Sample.server ∧ pairwise.Nodup ∧
      pairwise.map AclEntry.name = ["web_10.0.0.1_10.0.0.9", "web_10.0.0.1_10.0.0.9"] ∧
      ¬(pairwise.map AclEntry.name).Nodup ∧
      ((Acl.ofInterface "tap0" .ingress pairwise).dropEntries ["web_10.0.0.1_10.0.0.9"]).entries = [] := by
  intro web s c pairwise
  have hnames : pairwise.map AclEntry.name = ["web_10.0.0.1_10.0.0.9", "web_10.0.0.1_10.0.0.9"] := by
    decide +kernel
  refine ⟨Snapshot.reachable_context _, by decide +kernel, by decide +kernel, by decide +kernel, hnames,
    ?_, by decide +kernel⟩
  rw [hnames]
  decide

end GroupPolicy
