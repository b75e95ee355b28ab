import GroupPolicy.Proofs.Render.Effects
import GroupPolicy.Proofs.Render.PlanRequests
import Mathlib.Data.List.Induction
import Mathlib.Data.List.Nodup

namespace GroupPolicy

theorem eraseDups_concat {α : Type} [DecidableEq α] (l : List α) (a : α) :
    (l ++ [a]).eraseDups = if a ∈ l then l.eraseDups else l.eraseDups ++ [a] := by
  rw [List.eraseDups_append]
  by_cases ha : a ∈ l
  · simp [ha, List.removeAll]
  · simp [ha, List.removeAll, List.eraseDups_cons]

theorem nodup_eraseDups {α : Type} [DecidableEq α] (l : List α) : l.eraseDups.Nodup := by
  induction l using List.reverseRecOn with
  | nil => exact List.nodup_nil
  | append_singleton l a ih =>
    rw [eraseDups_concat]
    by_cases ha : a ∈ l
    · rwa [if_pos ha]
    · rw [if_neg ha, ← List.concat_eq_append]
      exact ih.concat fun hmem => ha (List.mem_eraseDups.mp hmem)

namespace Acl

variable {l : List AclEntry} {e : AclEntry}

/-- An entry comes last, or takes the place of the first one of its name. -/
theorem putEntry_cases (e : AclEntry) (l : List AclEntry) :
    ((∀ x ∈ l, x.name ≠ e.name) ∧ putEntry e l = l ++ [e]) ∨
      ∃ front x back, l = front ++ x :: back ∧ (∀ y ∈ front, y.name ≠ e.name) ∧ x.name = e.name ∧
        putEntry e l = front ++ e :: back := by
  induction l with
  | nil =>
    left
    exact ⟨List.forall_mem_nil _, rfl⟩
  | cons x r ih =>
    rw [putEntry]
    by_cases hx : x.name = e.name
    · right
      rw [if_pos hx]
      exact ⟨[], x, r, rfl, List.forall_mem_nil _, hx, rfl⟩
    · rw [if_neg hx]
      rcases ih with ⟨hnone, hput⟩ | ⟨front, y, back, rfl, hfront, hy, hput⟩
      · left
        rw [hput]
        exact ⟨List.forall_mem_cons.mpr ⟨hx, hnone⟩, rfl⟩
      · right
        rw [hput]
        exact ⟨x :: front, y, back, rfl, List.forall_mem_cons.mpr ⟨hx, hfront⟩, hy, rfl⟩

/-- An entry of a new name comes last. -/
theorem putEntry_of_not_mem (hname : ∀ x ∈ l, x.name ≠ e.name) : putEntry e l = l ++ [e] := by
  rcases putEntry_cases e l with ⟨-, hput⟩ | ⟨front, x, back, rfl, -, hx, -⟩
  · exact hput
  · exact absurd hx (hname x (by simp))

theorem map_name_putEntry (e : AclEntry) (l : List AclEntry) :
    (putEntry e l).map AclEntry.name =
      if e.name ∈ l.map AclEntry.name then l.map AclEntry.name else l.map AclEntry.name ++ [e.name] := by
  rcases putEntry_cases e l with ⟨hnone, hput⟩ | ⟨front, x, back, rfl, -, hx, hput⟩
  · have hnot : e.name ∉ l.map AclEntry.name := by
      intro hmem
      obtain ⟨x, hx, hname⟩ := List.mem_map.mp hmem
      exact hnone x hx hname
    rw [hput, if_neg hnot, List.map_append, List.map_singleton]
  · rw [hput, if_pos (by simp [hx])]
    simp [hx]

/-- The first entry of a name, after one has been put into the list. -/
theorem find?_putEntry (e : AclEntry) (l : List AclEntry) (n : String) :
    (putEntry e l).find? (fun x => x.name == n) =
      if e.name = n then some e else l.find? fun x => x.name == n := by
  have hskip {front : List AclEntry} (hfront : ∀ y ∈ front, y.name ≠ e.name) (h : e.name = n) :
      front.find? (fun x => x.name == n) = none := by
    apply List.find?_eq_none.mpr
    intro y hy
    simpa [← h] using hfront y hy
  rcases putEntry_cases e l with ⟨hnone, hput⟩ | ⟨front, x, back, rfl, hfront, hx, hput⟩
  · by_cases hn : e.name = n
    · simp [hput, hskip hnone hn, hn]
    · simp [hput, hn]
  · by_cases hn : e.name = n
    · simp [hput, hskip hfront hn, hn]
    · simp [hput, hx, hn]

/-- An entry stays where it is if it has another name, or if an entry before it has the same one. -/
theorem getElem?_putEntry {i : Nat} {x : AclEntry} (hx : l[i]? = some x)
    (h : x.name = e.name → e.name ∈ (l.take i).map AclEntry.name) : (putEntry e l)[i]? = some x := by
  have hi : i < l.length := (List.getElem?_eq_some_iff.mp hx).1
  rcases putEntry_cases e l with ⟨-, hput⟩ | ⟨front, y, back, rfl, hfront, hy, hput⟩
  · rw [hput, List.getElem?_append_left hi, hx]
  · rw [hput]
    rcases Nat.lt_trichotomy i front.length with hlt | rfl | hgt
    · rw [List.getElem?_append_left hlt] at hx ⊢
      exact hx
    · -- This is the entry that is replaced, so none before it has its name.
      rw [List.getElem?_append_right (Nat.le_refl _), Nat.sub_self] at hx
      obtain rfl : y = x := Option.some.inj hx
      have hmem := h hy
      rw [List.take_left' rfl] at hmem
      obtain ⟨z, hz, hname⟩ := List.mem_map.mp hmem
      exact absurd hname (hfront z hz)
    · obtain ⟨j, hj⟩ := Nat.exists_eq_add_of_lt hgt
      rw [List.getElem?_append_right (by omega)] at hx ⊢
      have hpos : i - front.length = j + 1 := by omega
      rw [hpos, List.getElem?_cons_succ] at hx ⊢
      exact hx

end Acl

/-- The names of written entries that a list did not hold before, each where it first appears. -/
def freshNames (old es : List AclEntry) : List String :=
  ((es.map AclEntry.name).filter fun n => n ∉ old.map AclEntry.name).eraseDups

/-- What a list holds once entries have been written to it. -/
structure Upserts (old es new : List AclEntry) : Prop where
  /-- The places of the list keep their names, and there is one more for each new name. -/
  names_eq : new.map AclEntry.name = old.map AclEntry.name ++ freshNames old es
  /-- The first entry of a written name is the last one that was given for it. -/
  first_eq : ∀ n ∈ es.map AclEntry.name,
    (new.find? fun e => e.name == n) = (es.filter fun e => e.name = n).getLast?
  /-- An entry stays if its name is not written, or if it is not the first of its name. -/
  kept : ∀ i x, old[i]? = some x →
    x.name ∉ es.map AclEntry.name ∨ x.name ∈ (old.take i).map AclEntry.name → new[i]? = some x

section Names

variable {old es : List AclEntry} {e : AclEntry} {n : String}

theorem mem_freshNames :
    n ∈ freshNames old es ↔ n ∈ es.map AclEntry.name ∧ n ∉ old.map AclEntry.name := by
  rw [freshNames, List.mem_eraseDups, List.mem_filter, decide_eq_true_eq]

theorem nodup_freshNames (old es : List AclEntry) : (freshNames old es).Nodup :=
  nodup_eraseDups _

theorem freshNames_concat (old es : List AclEntry) (e : AclEntry) :
    freshNames old (es ++ [e]) =
      if e.name ∈ old.map AclEntry.name ++ freshNames old es then freshNames old es
      else freshNames old es ++ [e.name] := by
  unfold freshNames
  rw [List.map_append, List.map_singleton, List.filter_append]
  by_cases hold : e.name ∈ old.map AclEntry.name
  · rw [List.filter_cons_of_neg (by simpa using hold), List.filter_nil, List.append_nil,
      if_pos (List.mem_append_left _ hold)]
  · rw [List.filter_cons_of_pos (by simpa using hold), List.filter_nil, eraseDups_concat]
    simp only [List.mem_append, hold, false_or, List.mem_eraseDups]

end Names

namespace Upserts

variable {old es new new' : List AclEntry} {x : AclEntry} {i : Nat} {n : String}

theorem nil (old : List AclEntry) : Upserts old [] old where
  names_eq := (List.append_nil _).symm
  first_eq _ hn := nomatch hn
  kept _ _ hx _ := hx

theorem take_map_name (h : Upserts old es new) (hi : i ≤ old.length) :
    (new.take i).map AclEntry.name = (old.take i).map AclEntry.name := by
  rw [List.map_take, h.names_eq, List.take_append_of_le_length (by rwa [List.length_map]),
    List.map_take]

/-- One more entry is put into what the earlier ones have made of the list. -/
theorem concat (h : Upserts old es new) (e : AclEntry) :
    Upserts old (es ++ [e]) (Acl.putEntry e new) where
  names_eq := by
    rw [Acl.map_name_putEntry, freshNames_concat, h.names_eq]
    by_cases hmem : e.name ∈ old.map AclEntry.name ++ freshNames old es
    · rw [if_pos hmem, if_pos hmem]
    · rw [if_neg hmem, if_neg hmem, List.append_assoc]
  first_eq n hn := by
    rw [Acl.find?_putEntry, List.filter_append, List.getLast?_append]
    by_cases he : e.name = n
    · simp [he]
    · have hn' : n ∈ es.map AclEntry.name := by
        rw [List.map_append, List.mem_append] at hn
        exact hn.resolve_right fun hlast => he (List.mem_singleton.mp hlast).symm
      simp [he, h.first_eq n hn']
  kept i x hx hkept := by
    have hi : i < old.length := (List.getElem?_eq_some_iff.mp hx).1
    rw [List.map_append, List.mem_append, not_or] at hkept
    apply Acl.getElem?_putEntry
    · apply h.kept i x hx
      exact hkept.imp_left And.left
    · intro hname
      rw [h.take_map_name hi.le, ← hname]
      refine hkept.resolve_left fun hnot => hnot.2 ?_
      exact List.mem_singleton.mpr hname

/-- A place that is not kept holds the last entry that was given for its name. -/
theorem eq_getLast? (h : Upserts old es new) (hx : new[i]? = some x)
    (hplace : ∀ y, old[i]? = some y →
      y.name ∈ es.map AclEntry.name ∧ y.name ∉ (old.take i).map AclEntry.name) :
    some x = (es.filter fun e => e.name = x.name).getLast? := by
  have hname : (old.map AclEntry.name ++ freshNames old es)[i]? = some x.name := by
    rw [← h.names_eq, List.getElem?_map, hx, Option.map_some]
  have hfirst : x.name ∈ es.map AclEntry.name ∧ x.name ∉ (new.take i).map AclEntry.name := by
    by_cases hi : i < old.length
    · have hold : old[i]? = some old[i] := List.getElem?_eq_getElem hi
      rw [List.getElem?_append_left (by rwa [List.length_map]), List.getElem?_map, hold,
        Option.map_some, Option.some.injEq] at hname
      rw [h.take_map_name hi.le, ← hname]
      exact hplace old[i] hold
    · rw [List.getElem?_append_right (by rw [List.length_map]; omega), List.length_map] at hname
      obtain ⟨hwritten, hnew⟩ := mem_freshNames.mp (List.mem_of_getElem? hname)
      refine ⟨hwritten, fun hmem => ?_⟩
      rw [List.map_take, h.names_eq, List.take_append, List.length_map, List.mem_append] at hmem
      rcases hmem with hmem | hmem
      · exact hnew (List.mem_of_mem_take hmem)
      · -- The new names are all different, so this one does not stand before its place.
        obtain ⟨j, hj, hat⟩ := List.mem_take_iff_getElem.mp hmem
        obtain ⟨hlt, hvalue⟩ := List.getElem?_eq_some_iff.mp hname
        have hsame := (nodup_freshNames old es).getElem_inj_iff.mp (hat.trans hvalue.symm)
        omega
  rw [← h.first_eq x.name hfirst.1]
  symm
  apply List.find?_eq_some_iff_append.mpr
  obtain ⟨hi, hvalue⟩ := List.getElem?_eq_some_iff.mp hx
  refine ⟨beq_self_eq_true _, new.take i, new.drop (i + 1), ?_, fun y hy => ?_⟩
  · rw [← hvalue, ← List.drop_eq_getElem_cons hi, List.take_append_drop]
  · have hne : y.name ≠ x.name := fun heq => hfirst.2 (heq ▸ List.mem_map_of_mem hy)
    simpa using hne

/-- What a list holds once entries have been written to it is determined by these. -/
theorem unique (h : Upserts old es new) (h' : Upserts old es new') : new = new' := by
  have hnames : new.map AclEntry.name = new'.map AclEntry.name := by rw [h.names_eq, h'.names_eq]
  apply List.ext_getElem?
  intro i
  by_cases hkept : ∃ x, old[i]? = some x ∧
      (x.name ∉ es.map AclEntry.name ∨ x.name ∈ (old.take i).map AclEntry.name)
  · obtain ⟨x, hx, hstays⟩ := hkept
    rw [h.kept i x hx hstays, h'.kept i x hx hstays]
  · have hplace : ∀ y, old[i]? = some y →
        y.name ∈ es.map AclEntry.name ∧ y.name ∉ (old.take i).map AclEntry.name := by
      intro y hy
      by_contra hnot
      refine hkept ⟨y, hy, ?_⟩
      tauto
    have hat : (new[i]?).map AclEntry.name = (new'[i]?).map AclEntry.name := by
      rw [← List.getElem?_map, hnames, List.getElem?_map]
    cases hx : new[i]? with
    | none =>
      rw [hx, Option.map_none] at hat
      exact (Option.map_eq_none_iff.mp hat.symm).symm
    | some x =>
      rw [hx, Option.map_some] at hat
      obtain ⟨x', hx', hname⟩ := Option.map_eq_some_iff.mp hat.symm
      rw [hx', h.eq_getLast? hx hplace, h'.eq_getLast? hx' hplace, hname]

theorem nodup_names (h : Upserts old es new) (hold : (old.map AclEntry.name).Nodup) :
    (new.map AclEntry.name).Nodup := by
  rw [h.names_eq]
  apply hold.append (nodup_freshNames old es)
  intro n hn hfresh
  exact (mem_freshNames.mp hfresh).2 hn

theorem mem_names (h : Upserts old es new) (hn : n ∈ es.map AclEntry.name) :
    n ∈ new.map AclEntry.name := by
  rw [h.names_eq, List.mem_append, mem_freshNames]
  tauto

/-- What has been made of a list by some entries is left as it is by the same entries. -/
theorem again (h : Upserts old es new) : Upserts new es new where
  names_eq := by
    have hnone : freshNames new es = [] := by
      apply List.eq_nil_iff_forall_not_mem.mpr
      intro n hn
      obtain ⟨hwritten, hnew⟩ := mem_freshNames.mp hn
      exact hnew (h.mem_names hwritten)
    rw [hnone, List.append_nil]
  first_eq := h.first_eq
  kept _ _ hx _ := hx

end Upserts

namespace SyncMode

theorem upserts_write (es old : List AclEntry) : Upserts old es (SyncMode.write.edit es old) := by
  induction es using List.reverseRecOn with
  | nil => exact .nil old
  | append_singleton es e ih =>
    rw [edit_append]
    exact ih.concat e

/-- Writing the same entries once more changes nothing. -/
theorem write_write (es l : List AclEntry) :
    SyncMode.write.edit es (SyncMode.write.edit es l) = SyncMode.write.edit es l :=
  (upserts_write es (SyncMode.write.edit es l)).unique (upserts_write es l).again

end SyncMode

theorem Acl.putEntries_putEntries (l : Acl) (es : List AclEntry) :
    (l.putEntries es).putEntries es = l.putEntries es :=
  congrArg (fun entries => { l with entries := entries }) (SyncMode.write_write es l.entries)

namespace Device

variable {s : Device} {t : AclTarget} {interface : String} {d : AclDirection}

theorem writeEntries_of_reachable (hname : parseAclName t.name = some (interface, d))
    (hreach : s.unreachable.mem t.node = false) (es : List AclEntry) :
    s.writeEntries t.node t.name es =
      ⟨{ s with
          acls := s.acls.insert t ((s.acls.getD t (.ofInterface interface d [])).putEntries es)
          calls := s.calls + 1 }, .ok ()⟩ := by
  simp [writeEntries, ask, hname, hreach]

theorem writeEntries_of_refused
    (h : parseAclName t.name = none ∨ s.unreachable.mem t.node = true) (es : List AclEntry) :
    ∃ e, s.writeEntries t.node t.name es = ⟨{ s with calls := s.calls + 1 }, .error e⟩ := by
  have hrefused : ∃ e, SyncMode.write.refusal? s.unreachable t = some e := by
    unfold SyncMode.refusal?
    split
    · exact ⟨_, rfl⟩
    next hreach =>
      have hname := h.resolve_right hreach
      exact ⟨_, if_pos ⟨rfl, hname⟩⟩
  obtain ⟨e, he⟩ := hrefused
  exact ⟨e, syncTarget_of_some he⟩

end Device

/-- Writing entries to a list on a node that can be reached, under a name that a list of an interface can
have, succeeds and changes this list only. The places of the list keep their names, and new names come
behind them in the order in which they first appear; the first entry of a written name is the last one
given for it, and all else stays. So names that were all different are so afterwards, and writing the same
entries once more changes nothing. Under any other name, or if the node cannot be reached, the request
fails and no list changes. -/
theorem written_entries_upserted (s : Device) (t : AclTarget) (es : List AclEntry) :
    let written := s.writeEntries t.node t.name es
    (∀ interface d, parseAclName t.name = some (interface, d) → s.unreachable.mem t.node = false →
      let old := s.acls.getD t (.ofInterface interface d [])
      let again := written.device.writeEntries t.node t.name es
      written.result = .ok () ∧
        (∃ new, written.device.acls = s.acls.insert t { old with entries := new } ∧
          Upserts old.entries es new ∧
          ((old.entries.map AclEntry.name).Nodup → (new.map AclEntry.name).Nodup)) ∧
        again.result = .ok () ∧ again.device.acls = written.device.acls) ∧
      (parseAclName t.name = none ∨ s.unreachable.mem t.node = true →
        (∃ e, written.result = .error e) ∧ written.device.acls = s.acls) := by
  intro written
  refine ⟨fun interface d hname hreach => ?_, fun hrefused => ?_⟩
  · intro old again
    have hwritten : written = ⟨{ s with acls := s.acls.insert t (old.putEntries es), calls := s.calls + 1 },
        .ok ()⟩ := Device.writeEntries_of_reachable hname hreach es
    have hagain : again = _ :=
      Device.writeEntries_of_reachable hname (hwritten ▸ hreach) es
    have hupserts := SyncMode.upserts_write es old.entries
    refine ⟨by rw [hwritten], ⟨_, by rw [hwritten]; rfl, hupserts, hupserts.nodup_names⟩, by rw [hagain], ?_⟩
    rw [hagain, hwritten]
    dsimp only
    rw [SortedMap.getD_insert_self, Acl.putEntries_putEntries, SortedMap.insert_insert_self]
  · obtain ⟨e, he⟩ := Device.writeEntries_of_refused hrefused es
    exact ⟨⟨e, congrArg Attempt.result he⟩, congrArg (fun a => a.device.acls) he⟩

/-- A list that holds a name twice, and a request that gives this name twice and a new name twice: the
first entry of the old name becomes the last one given, the second stays, and the new name comes last. -/
theorem written_entries_upserted_repeated :
    let entry (name : String) (protocol : UInt8) : AclEntry := ⟨name, { protocol := .other protocol }, .permit⟩
    let t : AclTarget := ⟨"node", "tap0INGRESS"⟩
    let old := Acl.ofInterface "tap0" .ingress [entry "a" 1, entry "b" 1, entry "a" 2]
    let s : Device := { acls := .ofList [(t, old)] }
    let es := [entry "c" 1, entry "a" 3, entry "c" 2, entry "a" 4]
    let written := s.writeEntries t.node t.name es
    written.device.acls.get? t =
        some (.ofInterface "tap0" .ingress [entry "a" 4, entry "b" 1, entry "a" 2, entry "c" 2]) ∧
      (written.device.writeEntries t.node t.name es).device.acls = written.device.acls ∧
      (s.writeEntries "node" "tap0" es).device.acls = s.acls := by
  intro entry t old s es written
  obtain ⟨-, ⟨new, hnew, hupserts, -⟩, -, hagain⟩ :=
    (written_entries_upserted s t es).1 "tap0" .ingress (by decide) rfl
  obtain ⟨-, hrefused⟩ := (written_entries_upserted s ⟨"node", "tap0"⟩ es).2 (.inl (by decide))
  have hold : s.acls.getD t (.ofInterface "tap0" .ingress []) = old := by decide +kernel
  rw [hold] at hnew hupserts
  have hexpected : Upserts old.entries es [entry "a" 4, entry "b" 1, entry "a" 2, entry "c" 2] :=
    SyncMode.upserts_write es old.entries
  refine ⟨?_, hagain, hrefused⟩
  rw [hnew, SortedMap.get?_insert_self, hupserts.unique hexpected]
  rfl

end GroupPolicy
