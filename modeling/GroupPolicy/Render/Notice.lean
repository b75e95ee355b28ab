import GroupPolicy.Policy.Context
import GroupPolicy.Render.Addressing
import GroupPolicy.Render.ClassifierKind
import GroupPolicy.Render.RenderError

namespace GroupPolicy

/-- How grave a notice is. -/
inductive Severity where
  | warning
  | error
  deriving DecidableEq, Repr

/-- The name of a severity. -/
def Severity.text : Severity → String
  | .warning => "WARN"
  | .error => "ERROR"

/-- What is done with planned entries. -/
inductive SyncMode where
  | write
  | remove
  deriving DecidableEq, Repr, Inhabited

/-- The name of what is done. -/
def SyncMode.text : SyncMode → String
  | .write => "write"
  | .remove => "remove"

/-- Something worth reporting. -/
inductive Notice where
  /-- A policy names a rule group that is not known. -/
  | skippedPolicy (row : PolicyRow)
  /-- A peer is not known. -/
  | missingPeer (key : EndpointKey)
  /-- A peer is attached nowhere. -/
  | unlocatedPeer (cause : ResolveError)
  /-- The classifiers of a rule amount to nothing. -/
  | noClassifier (rule : String) (d : Direction)
  /-- A rule does not let its traffic through. -/
  | noAllow (rule : String)
  /-- The parameters of a rule make no match. -/
  | skippedRule (rule : String) (cause : ClassifierError)
  /-- The address at one end is no prefix. -/
  | unassigned (role : AddressRole) (key : EndpointKey) (cause : FormatError)
  /-- An entry would match any address. -/
  | unboundEntry (entry : String)
  /-- An endpoint has no lists. -/
  | notRendered (cause : ResolveError)
  /-- The lists of a peer were not written. -/
  | peerNotUpdated (key : EndpointKey) (cause : RenderError)
  /-- No endpoint has policies. -/
  | nothingToRender
  /-- A list was not written. -/
  | notWritten (acl : String) (cause : WriteError)
  /-- A list was not bound to its interface. -/
  | notBound (acl : String) (location : Location) (cause : WriteError)
  /-- Planned entries were not written or not removed. -/
  | notSynced (mode : SyncMode) (acl node : String) (cause : WriteError)
  deriving DecidableEq, Repr

namespace Notice

/-- How grave a notice is: what a device refuses is an error. -/
def severity : Notice → Severity
  | .notWritten .. => .error
  | .notBound .. => .error
  | .notSynced .. => .error
  | _ => .warning

/-- The wording of a notice. -/
def text : Notice → String
  | .skippedPolicy row =>
    "Skipping policy " ++ row.owner.text ++ " -> " ++ row.peer.text ++ ": unknown rule group " ++
      row.ruleGroup.text
  | .missingPeer key => "Peer " ++ key.text ++ " missing from context, skipping"
  | .unlocatedPeer cause => "Skipping peer: " ++ cause.message
  | .noClassifier rule d => "Rule " ++ rule ++ " has no usable classifier for direction " ++ d.text
  | .noAllow rule => "Rule " ++ rule ++ " has no allow action, skipping"
  | .skippedRule rule cause => "Rule " ++ rule ++ " skipped: " ++ cause.message
  | .unassigned role key cause =>
    role.text ++ " address of " ++ key.text ++ " not assigned: " ++ cause.message
  | .unboundEntry entry => "Rule " ++ entry ++ " has no address match after mapping, dropping"
  | .notRendered cause => "Cannot render ACLs: " ++ cause.message
  | .peerNotUpdated key cause => "Peer " ++ key.text ++ " not updated: " ++ cause.message
  | .nothingToRender => "Snapshot has no renderer endpoints"
  | .notWritten acl cause => "Failed to write " ++ acl ++ ": " ++ cause.message
  | .notBound acl location cause =>
    "Failed to bind " ++ acl ++ " to " ++ location.text ++ ": " ++ cause.message
  | .notSynced mode acl node cause =>
    "Failed to " ++ mode.text ++ " entries of " ++ acl ++ " on " ++ node ++ ": " ++ cause.message

/-- A notice on a line, with its severity in front. -/
def line (n : Notice) : String := n.severity.text ++ " " ++ n.text

end Notice

/-- A result together with the notices on the way to it. -/
structure Logged (α : Type) where
  value : α
  notices : List Notice := []

namespace Logged

variable {α β : Type}

/-- The results for all elements of a list in turn, with all notices. -/
def gather (f : α → Logged (List β)) (l : List α) : Logged (List β) :=
  let results := l.map f
  ⟨results.flatMap value, results.flatMap notices⟩

@[simp]
theorem value_gather (f : α → Logged (List β)) (l : List α) :
    (gather f l).value = l.flatMap fun a => (f a).value := by
  simp [gather, List.flatMap_map]

/-- One result after another, with all notices. -/
def append (x y : Logged (List α)) : Logged (List α) :=
  ⟨x.value ++ y.value, x.notices ++ y.notices⟩

end Logged

end GroupPolicy
