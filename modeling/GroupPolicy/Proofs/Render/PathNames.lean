import GroupPolicy.Proofs.Render.Attached
import GroupPolicy.Proofs.Render.Partition

namespace GroupPolicy

namespace Text

variable {p : Char → Bool} {lead s trail : List Char} {c : Char}

/-- A text with no character of a class at either end. -/
structure IsTrimmed (p : Char → Bool) (s : List Char) : Prop where
  head : ∀ c, s.head? = some c → p c = false
  last : ∀ c, s.getLast? = some c → p c = false

theorem isTrimmed_iff :
    IsTrimmed p s ↔ (s.head?.all (fun c => !p c) && s.getLast?.all fun c => !p c) = true := by
  simp only [Bool.and_eq_true, Option.all_eq_true, Bool.not_eq_true']
  exact ⟨fun h => ⟨h.head, h.last⟩, fun h => ⟨h.1, h.2⟩⟩

instance : Decidable (IsTrimmed p s) := decidable_of_iff _ isTrimmed_iff.symm

theorem dropWhile_append_of_head (hlead : ∀ c ∈ lead, p c = true)
    (h : ∀ c, s.head? = some c → p c = false) : (lead ++ s).dropWhile p = s := by
  rw [List.dropWhile_append_of_pos hlead]
  cases s with
  | nil => rfl
  | cons c s => simp [h c rfl]

theorem dropEndWhile_append_of_last (htrail : ∀ c ∈ trail, p c = true)
    (h : ∀ c, s.getLast? = some c → p c = false) : dropEndWhile p (s ++ trail) = s := by
  rw [dropEndWhile, List.reverse_append, dropWhile_append_of_head, List.reverse_reverse]
  · simpa using htrail
  · simpa using h

theorem IsTrimmed.trimBoth_pad (h : IsTrimmed p s) (hlead : ∀ c ∈ lead, p c = true)
    (htrail : ∀ c ∈ trail, p c = true) : trimBoth p (lead ++ s ++ trail) = s := by
  cases s with
  | nil =>
    have hall : ∀ c ∈ lead ++ [] ++ trail, p c = true := by
      simp only [List.append_nil, List.mem_append]
      rintro c (hc | hc)
      · exact hlead c hc
      · exact htrail c hc
    have hnone : (lead ++ [] ++ trail ++ []).dropWhile p = [] := dropWhile_append_of_head hall (by simp)
    rw [List.append_nil] at hnone
    rw [trimBoth, hnone, dropEndWhile_nil]
  | cons c s =>
    rw [trimBoth, List.append_assoc, dropWhile_append_of_head hlead, dropEndWhile_append_of_last htrail h.last]
    simpa using h.head

theorem IsTrimmed.trimBoth_eq (h : IsTrimmed p s) : trimBoth p s = s := by
  have hpad : trimBoth p ([] ++ s ++ []) = s := h.trimBoth_pad (by simp) (by simp)
  rwa [List.nil_append, List.append_nil] at hpad

theorem dropWhile_append_cons_of_not (h : p c = false) (lead s : List Char) :
    (lead ++ c :: s).dropWhile p = lead.dropWhile p ++ c :: s := by
  induction lead with
  | nil => simp [h]
  | cons d lead ih => cases hd : p d <;> simp [hd, ih]

theorem of_getLast?_concat (h : p c = false) (s : List Char) :
    ∀ d, (s ++ [c]).getLast? = some d → p d = false := by
  intro d hd
  rw [List.getLast?_concat] at hd
  rwa [← Option.some.inj hd]

theorem splitLast_eq_none {sep : Char} (h : sep ∉ s) : splitLast sep s = none := by
  rw [splitLast, splitFirst_eq_none_iff.mpr (by simpa using h), Option.map_none]

end Text

section Characters

open Text

variable {before key name trail : List Char} {q : Char}

/-- What stands within the last brackets of a path: a name in quotes behind its key. -/
def selectorChars (key : List Char) (q : Char) (name : List Char) : List Char :=
  key ++ '=' :: q :: name ++ [q]

theorem ne_of_isQuote (hq : isQuote q = true) : q ≠ '[' ∧ q ≠ ']' ∧ isBlank q = false := by
  rw [isQuote, Bool.or_eq_true, beq_iff_eq, beq_iff_eq] at hq
  rcases hq with rfl | rfl <;> decide

theorem trim_brackets (before selector : List Char) (htrail : ∀ c ∈ trail, isBlank c = true) :
    trim (before ++ '[' :: selector ++ [']'] ++ trail) =
      before.dropWhile isBlank ++ '[' :: selector ++ [']'] := by
  have hblank : (before ++ '[' :: selector ++ [']'] ++ trail).dropWhile isBlank =
      before.dropWhile isBlank ++ '[' :: selector ++ [']'] ++ trail := by
    simp only [List.append_assoc, List.cons_append]
    exact dropWhile_append_cons_of_not (by decide) before _
  rw [trim, trimBoth, hblank]
  exact dropEndWhile_append_of_last htrail (of_getLast?_concat (by decide) _)

/-- Of a path only the name in the quotes is left: the brackets are cut off, then the key, then the quotes. -/
theorem leafChars_path (before : List Char) (hbracket : '[' ∉ key) (hequals : '=' ∉ key)
    (hq : isQuote q = true) (hname : '[' ∉ name) (htrimmed : IsTrimmed isQuote name)
    (htrail : ∀ c ∈ trail, isBlank c = true) :
    leafChars (before ++ '[' :: selectorChars key q name ++ [']'] ++ trail) = name := by
  obtain ⟨hopen, hclose, hblank⟩ := ne_of_isQuote hq
  have hlast : splitLast '[' (before.dropWhile isBlank ++ '[' :: selectorChars key q name ++ [']']) =
      some (before.dropWhile isBlank, selectorChars key q name ++ [']']) := by
    rw [List.append_assoc]
    apply splitLast_append
    simp [selectorChars, hbracket, hname, Ne.symm hopen]
  have hselector : dropEndWhile (· == ']') (selectorChars key q name ++ [']']) = selectorChars key q name := by
    apply dropEndWhile_append_of_last (by simp)
    exact of_getLast?_concat (by simp [hclose]) (key ++ '=' :: q :: name)
  have hvalue : splitFirst '=' (selectorChars key q name) = some (key, q :: name ++ [q]) := by
    rw [selectorChars, List.append_assoc]
    exact splitFirst_append _ hequals
  have htrim : trim (q :: name ++ [q]) = q :: name ++ [q] :=
    IsTrimmed.trimBoth_eq ⟨by simp [hblank], of_getLast?_concat hblank _⟩
  have hquotes : trimBoth isQuote ([q] ++ name ++ [q]) = name :=
    htrimmed.trimBoth_pad (by simp [hq]) (by simp [hq])
  rw [leafChars, trim_brackets before _ htrail]
  simp only [hlast, hselector, hvalue, htrim]
  exact hquotes

theorem leafChars_name (hname : '[' ∉ name) (htrimmed : IsTrimmed isBlank name) : leafChars name = name := by
  rw [leafChars, trim, htrimmed.trimBoth_eq]
  simp only [splitLast_eq_none hname]

end Characters

/-- The path whose last brackets hold a name in quotes behind its key. -/
def pathTo (before key : String) (q : Char) (name : String) : String :=
  before ++ "[" ++ key ++ "=" ++ String.singleton q ++ name ++ String.singleton q ++ "]"

/-- A name that can be told in a path: it holds no opening bracket, and no quote stands at its ends. -/
structure IsQuotable (name : String) : Prop where
  bracket : '[' ∉ name.toList
  quotes : Text.IsTrimmed isQuote name.toList

/-- A name that can be told in a path and by itself. -/
structure IsName (name : String) : Prop extends IsQuotable name where
  blanks : Text.IsTrimmed Text.isBlank name.toList
  ne_empty : name ≠ ""

/-- The texts that tell a name: the name by itself, and any path to it, with blanks around it. -/
inductive Tells (name : String) : String → Prop where
  | bare : Tells name name
  | path (before : String) {key : String} {q : Char} {trail : String} (hequals : '=' ∉ key.toList)
      (hbracket : '[' ∉ key.toList) (hq : q = '\'' ∨ q = '"')
      (htrail : ∀ c ∈ trail.toList, Text.isBlank c = true) : Tells name (pathTo before key q name ++ trail)

theorem leafKey_path (before : String) {key name trail : String} {q : Char} (hequals : '=' ∉ key.toList)
    (hbracket : '[' ∉ key.toList) (hq : q = '\'' ∨ q = '"') (hname : IsQuotable name)
    (htrail : ∀ c ∈ trail.toList, Text.isBlank c = true) :
    leafKey (pathTo before key q name ++ trail) = name := by
  have hquote : isQuote q = true := by rcases hq with rfl | rfl <;> decide
  have hchars : (pathTo before key q name ++ trail).toList =
      before.toList ++ '[' :: selectorChars key.toList q name.toList ++ [']'] ++ trail.toList := by
    simp [pathTo, selectorChars]
  rw [leafKey, hchars, leafChars_path before.toList hbracket hequals hquote hname.bracket hname.quotes htrail,
    String.ofList_toList]

theorem leafKey_name {name : String} (hname : '[' ∉ name.toList)
    (hblanks : Text.IsTrimmed Text.isBlank name.toList) : leafKey name = name := by
  rw [leafKey, leafChars_name hname hblanks, String.ofList_toList]

theorem IsName.leafKey_eq {name text : String} (h : IsName name) (ht : Tells name text) :
    leafKey text = name := by
  cases ht with
  | bare => exact leafKey_name h.bracket h.blanks
  | path before hequals hbracket hq htrail => exact leafKey_path before hequals hbracket hq h.toIsQuotable htrail

/-- A part of an attachment that leads to no name. -/
def LacksName (part : Option String) : Prop := part = none ∨ ∃ path, part = some path ∧ leafKey path = ""

theorem AttachmentPaths.location?_eq_none_iff {paths : AttachmentPaths} :
    paths.location? = none ↔ LacksName paths.mountPoint ∨ LacksName paths.nodeConnector := by
  unfold location? LacksName
  cases paths.mountPoint with
  | none => simp
  | some m => cases paths.nodeConnector <;> simp [or_iff_not_imp_left]

namespace Endpoint

variable {e e' : Endpoint} {node interface : String} {c : Context}

/-- An endpoint whose attachment tells the names of a node and of an interface. -/
def IsAttachedTo (e : Endpoint) (node interface : String) : Prop :=
  ∃ mountPoint nodeConnector, e.location = some ⟨some mountPoint, some nodeConnector⟩ ∧
    Tells node mountPoint ∧ Tells interface nodeConnector

theorem IsAttachedTo.location?_eq (h : e.IsAttachedTo node interface) (hnode : IsName node)
    (hinterface : IsName interface) : e.location? = some ⟨node, interface⟩ := by
  obtain ⟨mountPoint, nodeConnector, hlocation, hmount, hconnector⟩ := h
  rw [location?, hlocation, Option.bind_some]
  simp [AttachmentPaths.location?, hnode.leafKey_eq hmount, hinterface.leafKey_eq hconnector, hnode.ne_empty,
    hinterface.ne_empty]

theorem location?_eq_none_iff : e.location? = none ↔ e.location = none ∨ ∃ paths, e.location = some paths ∧
    (LacksName paths.mountPoint ∨ LacksName paths.nodeConnector) := by
  unfold location?
  cases e.location <;> simp [AttachmentPaths.location?_eq_none_iff]

theorem resolveLocation_eq_error_iff {cause : ResolveError} :
    e.resolveLocation = .error cause ↔ cause = .noLocation e.key ∧ e.location? = none := by
  unfold resolveLocation
  cases e.location? <;> simp [eq_comm]

/-- Endpoints at one location are in the group of the location. -/
theorem exists_group_of_location? {l : Location} (he : c.endpoint? e.key = some e)
    (he' : c.endpoint? e'.key = some e') (hl : e.location? = some l) (hl' : e'.location? = some l) :
    ∃ s, (Grouping.ofContext c).groups.get? l = some s ∧ e.key ∈ s.members ∧ e'.key ∈ s.members := by
  have hkey : c.locationOf? e.key = some l := (Context.locationOf?_of_endpoint? he).trans hl
  have hkey' : c.locationOf? e'.key = some l := (Context.locationOf?_of_endpoint? he').trans hl'
  obtain ⟨s, hs, hmem⟩ := SortedSet.mem_getD_iff.mp (Grouping.mem_groups_ofContext.mpr hkey)
  exact ⟨s, hs, hmem, (Grouping.mem_group_ofContext hs).mpr hkey'⟩

end Endpoint

/-- A path leads to the name in its last brackets, whatever it holds before them and whatever blanks stand
around it, and a bare name leads to itself. So endpoints that tell the same node and the same interface, each
in its own way, have the same location and are in one group. An endpoint has no location exactly if a part of
its attachment is missing or leads to no name. -/
theorem paths_lead_to_names :
    (∀ (before key name trail : String) (q : Char), '=' ∉ key.toList → '[' ∉ key.toList →
      q = '\'' ∨ q = '"' → IsQuotable name → (∀ c ∈ trail.toList, Text.isBlank c = true) →
        leafKey (pathTo before key q name ++ trail) = name) ∧
    (∀ name, IsQuotable name → Text.IsTrimmed Text.isBlank name.toList → leafKey name = name) ∧
    (∀ node interface, IsName node → IsName interface → ∀ e e' : Endpoint, e.IsAttachedTo node interface →
      e'.IsAttachedTo node interface → e.resolveLocation = .ok ⟨node, interface⟩ ∧
        e'.resolveLocation = e.resolveLocation ∧
        ∀ c : Context, c.endpoint? e.key = some e → c.endpoint? e'.key = some e' →
          ∃ s, (Grouping.ofContext c).groups.get? ⟨node, interface⟩ = some s ∧
            e.key ∈ s.members ∧ e'.key ∈ s.members) ∧
    ∀ (e : Endpoint) (cause : ResolveError), e.resolveLocation = .error cause ↔
      cause = .noLocation e.key ∧ (e.location = none ∨ ∃ paths, e.location = some paths ∧
        (LacksName paths.mountPoint ∨ LacksName paths.nodeConnector)) := by
  refine ⟨fun before key name trail q hequals hbracket hq hname htrail =>
      leafKey_path before hequals hbracket hq hname htrail,
    fun name hname hblanks => leafKey_name hname.bracket hblanks, ?_, fun e cause => ?_⟩
  · intro node interface hnode hinterface e e' hattached hattached'
    have hl := hattached.location?_eq hnode hinterface
    have hl' := hattached'.location?_eq hnode hinterface
    refine ⟨by rw [Endpoint.resolveLocation, hl], ?_, fun c he he' => ?_⟩
    · rw [Endpoint.resolveLocation, Endpoint.resolveLocation, hl, hl']
    · exact Endpoint.exists_group_of_location? he he' hl hl'
  · rw [Endpoint.resolveLocation_eq_error_iff, Endpoint.location?_eq_none_iff]

/-- One endpoint tells the paths, with another selector in front and a blank behind, and one the names. -/
theorem paths_lead_to_names_mixed :
    let byPath : Endpoint :=
      { key := Sample.key "10.0.0.1"
        location := some ⟨some "/topology[id='lab']/node[node-id='node'] ", some "/interface[name=\"tap0\"]"⟩ }
    let byName := Sample.endpoint "10.0.0.2" "tap0"
    let c : Context := (Context.addEndpoint { version := 1 } byPath).addEndpoint byName
    byPath.resolveLocation = .ok Sample.serverLocation ∧ byName.resolveLocation = byPath.resolveLocation ∧
      ∃ s, (Grouping.ofContext c).groups.get? Sample.serverLocation = some s ∧
        byPath.key ∈ s.members ∧ byName.key ∈ s.members := by
  intro byPath byName c
  obtain ⟨-, -, hagree, -⟩ := paths_lead_to_names
  have hnode : IsName "node" := ⟨⟨by decide, by decide⟩, by decide, by decide⟩
  have hinterface : IsName "tap0" := ⟨⟨by decide, by decide⟩, by decide, by decide⟩
  have hmount : Tells "node" "/topology[id='lab']/node[node-id='node'] " := by
    have hpath : "/topology[id='lab']/node[node-id='node'] " =
        pathTo "/topology[id='lab']/node" "node-id" '\'' "node" ++ " " := by decide
    rw [hpath]
    exact .path _ (by decide) (by decide) (.inl rfl) (List.all_eq_true.mp (by decide))
  have hconnector : Tells "tap0" "/interface[name=\"tap0\"]" := by
    have hpath : "/interface[name=\"tap0\"]" = pathTo "/interface" "name" '"' "tap0" ++ "" := by decide
    rw [hpath]
    exact .path _ (by decide) (by decide) (.inr rfl) (by simp)
  obtain ⟨hlocation, hsame, hgroup⟩ := hagree "node" "tap0" hnode hinterface byPath byName
    ⟨_, _, rfl, hmount, hconnector⟩ ⟨_, _, rfl, .bare, .bare⟩
  exact ⟨hlocation, hsame, hgroup c (by decide +kernel) (by decide +kernel)⟩

end GroupPolicy
