import CaseFlow.Workflow.Basic

/-!
# The default workflow

A case is created, triaged, and approved or rejected; an approved case is investigated before it
is closed. New apps start with this workflow.
-/

namespace CaseFlow.Seed

/-- A field that shows another one. -/
def shownField (label source : String) : FormField :=
  { id := "readonly-" ++ source, label := label, type := .readonly, source := some source }

/-- The steps of the default workflow. -/
def defaultNodes : List Node :=
  [{ id := "start", type := .start, label := "Case Created", position := ⟨50, 150⟩ },
    { id := "triage", type := .task, label := "Initial Triage", position := ⟨250, 150⟩,
      form := some
        { mode := .fill,
          fields :=
            [{ id := "triage-notes", label := "Triage Notes", type := .textarea, required := true },
              { id := "is-critical", label := "Is Critical?", type := .checkbox }] } },
    { id := "approval", type := .task, label := "Manager Approval", position := ⟨450, 150⟩,
      form := some
        { mode := .approval,
          fields :=
            [shownField "Triage Notes" "triage-notes",
              shownField "Is Critical?" "is-critical"] } },
    { id := "investigate", type := .task, label := "Further Investigation", position := ⟨650, 50⟩,
      form := some
        { mode := .fill,
          fields :=
            [{ id := "investigation-summary", label := "Investigation Summary", type := .textarea,
               required := true }] } },
    { id := "rejected", type := .finish, label := "Close as Rejected", position := ⟨650, 250⟩ },
    { id := "end", type := .finish, label := "Case Closed", position := ⟨850, 50⟩ }]

/-- An edge named for its ends. -/
def edgeBetween (source target : String) : Edge :=
  { id := s!"e-{source}-{target}", source := source, target := target }

/-- The default workflow. -/
def defaultWorkflow : Document where
  nodes := defaultNodes
  edges :=
    [edgeBetween "start" "triage", edgeBetween "triage" "approval",
      edgeBetween "approval" "investigate", edgeBetween "approval" "rejected",
      edgeBetween "investigate" "end"]

end CaseFlow.Seed
