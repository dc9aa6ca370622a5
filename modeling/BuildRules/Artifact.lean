import BuildRules.Label

/-!
# Artifacts and roots

An artifact is a file of the build: a path below a root, together with the label of
the target that it belongs to. What tells two artifacts apart is where they lie; the
owner is no part of it, so `identity` leaves it out. An `ArtifactSet` has at most one
artifact for a place.
-/

set_option autoImplicit false

namespace BuildRules

/-- The kinds of roots. -/
inductive RootKind where
  | source
  | bin
  | genfiles
  deriving DecidableEq, Repr

/-- A directory under which artifacts lie. -/
structure Root where
  kind : RootKind
  execPath : String
  deriving DecidableEq, Repr

namespace Root

/-- The root of source files: the workspace itself. -/
def source : Root := ⟨.source, ""⟩

def bin (execPath : String) : Root := ⟨.bin, execPath⟩

def genfiles (execPath : String) : Root := ⟨.genfiles, execPath⟩

end Root

/-- A file that the build reads or writes. -/
@[ext]
structure Artifact where
  root : Root
  path : String
  owner : Label
  deriving DecidableEq

namespace Artifact

def source (label : Label) : Artifact := ⟨.source, label.path, label⟩

/-- Where the artifact lies: two artifacts that agree on this are one file. -/
def identity (artifact : Artifact) : Root × String := (artifact.root, artifact.path)

/-- The path from the directory in which the build runs. -/
def execPath (artifact : Artifact) : String :=
  if artifact.root.execPath.isEmpty then artifact.path
  else artifact.root.execPath ++ "/" ++ artifact.path

def fileName (artifact : Artifact) : String := Text.baseName artifact.path

def isSource (artifact : Artifact) : Bool := artifact.root.kind = .source

/-- The display form: the path, after its root in brackets unless it is a source file. -/
def display (artifact : Artifact) : String :=
  if artifact.isSource then artifact.path
  else "[" ++ artifact.root.execPath ++ "]" ++ artifact.path

/-- The artifacts without those that lie where an artifact already met lies. -/
def distinctAfter : List (Root × String) → List Artifact → List Artifact
  | _, [] => []
  | met, artifact :: rest =>
    if artifact.identity ∈ met then distinctAfter met rest
    else artifact :: distinctAfter (artifact.identity :: met) rest

/-- What is kept lies where nothing met lies, and no two artifacts that are kept lie at one
place. -/
theorem pairwise_distinctAfter (artifacts : List Artifact) (met : List (Root × String)) :
    (∀ artifact ∈ distinctAfter met artifacts, artifact.identity ∉ met) ∧
      (distinctAfter met artifacts).Pairwise fun a b => a.identity ≠ b.identity := by
  induction artifacts generalizing met with
  | nil => simp [distinctAfter]
  | cons first rest ih =>
    unfold distinctAfter
    split
    · exact ih met
    · rename_i fresh
      obtain ⟨avoided, pairwise⟩ := ih (first.identity :: met)
      refine ⟨?_, .cons ?_ pairwise⟩
      · intro artifact member
        rcases List.mem_cons.1 member with rfl | member
        · exact fresh
        · exact fun old => avoided artifact member (List.mem_cons_of_mem _ old)
      · intro artifact member same
        exact avoided artifact member (same ▸ List.mem_cons_self)

/-- The artifacts in order, each only where its file is met first. -/
def distinct (artifacts : List Artifact) : List Artifact := distinctAfter [] artifacts

/-- No two artifacts of the list lie at one place. -/
theorem pairwise_distinct (artifacts : List Artifact) :
    (distinct artifacts).Pairwise fun a b => a.identity ≠ b.identity :=
  (pairwise_distinctAfter artifacts []).2

end Artifact

/-- Artifacts of which no two lie at one place. Their order means nothing. -/
structure ArtifactSet where
  members : List Artifact
  apart : members.Pairwise fun a b => a.identity ≠ b.identity
  deriving DecidableEq

namespace ArtifactSet

/-- The set without artifacts. -/
def empty : ArtifactSet := ⟨[], .nil⟩

/-- The artifact of the set that lies at a place. -/
def find? (set : ArtifactSet) (place : Root × String) : Option Artifact :=
  set.members.find? (·.identity = place)

/-- What a set does not find at a place is none of its members. -/
theorem identity_ne_of_find?_eq_none {set : ArtifactSet} {place : Root × String}
    (missed : set.find? place = none) : ∀ member ∈ set.members, place ≠ member.identity := by
  intro member inside same
  exact List.find?_eq_none.mp missed member inside (decide_eq_true same.symm)

/-- Adds an artifact, unless one lies at its place already. -/
def insert (set : ArtifactSet) (artifact : Artifact) : ArtifactSet :=
  if fresh : set.find? artifact.identity = none then
    ⟨artifact :: set.members, .cons (identity_ne_of_find?_eq_none fresh) set.apart⟩
  else set

/-- An artifact that is added where none lies is found there, and the other places stay as they
are. -/
theorem find?_insert {set : ArtifactSet} {artifact : Artifact}
    (fresh : set.find? artifact.identity = none) (place : Root × String) :
    (set.insert artifact).find? place =
      if artifact.identity = place then some artifact else set.find? place := by
  unfold insert
  rw [dif_pos fresh]
  unfold find?
  rw [List.find?_cons]
  by_cases same : artifact.identity = place
  · simp [same]
  · simp [same]

end ArtifactSet

end BuildRules
