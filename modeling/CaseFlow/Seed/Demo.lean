import CaseFlow.Case.Basic
import CaseFlow.Directory.User

/-!
# Demo data

The users, apps and cases that an installation starts with.
-/

namespace CaseFlow.Seed

/-- The first users. -/
def users : List User :=
  [{ id := "user-1", name := "Alina Petrova", email := "alina.petrova@example.com", role := .admin,
     avatarUrl := some "https://picsum.photos/id/1027/100/100" },
    { id := "user-2", name := "Ben Carter", email := "ben.carter@example.com",
      avatarUrl := some "https://picsum.photos/id/1005/100/100" },
    { id := "user-3", name := "Chen Lin", email := "chen.lin@example.com",
      avatarUrl := some "https://picsum.photos/id/1011/100/100" }]

/-- An app to be created with the default workflow. -/
structure AppSeed where
  /-- The id. -/
  id : String
  /-- The name. -/
  name : String
  /-- The icon. -/
  icon : String
  /-- The name of its color. -/
  themeColor : String
  deriving DecidableEq, Repr, Inhabited

/-- The first apps. -/
def apps : List AppSeed :=
  [⟨"app-1", "Support Desk", "📞", "blue"⟩, ⟨"app-2", "Dev Projects", "💻", "purple"⟩,
    ⟨"app-3", "HR Onboarding", "👥", "green"⟩]

/-- A time of a day in July 2024, universal time. -/
def july (day hour minute : Nat) : Timestamp :=
  ⟨(Date.of? 2024 7 day).getD default, hour * 3600 + minute * 60, 0, some 0⟩

/-- A step that was completed. -/
def left (stepId userId : String) (time : Timestamp) : Event := ⟨stepId, userId, time⟩

/-- The first cases. -/
def cases : List Case :=
  [{ id := "case-1", appId := "app-1", title := "Client Portal Login Failure on Mobile",
     description := "Users on iOS devices are unable to log in to the client portal. The login " ++
       "button is unresponsive on Safari for iOS 17 and later; Android and desktop browsers are " ++
       "unaffected.",
     status := .new, priority := .high, assigneeId := some "user-1", client := "Innovate Corp",
     tags := ["bug", "mobile", "portal"], createdAt := july 28 10 0, currentStep := some "start" },
    { id := "case-2", appId := "app-2", title := "Deploy Staging Environment for Q3 Features",
      description := "Provision servers, configure the database and set up CI/CD pipelines for " ++
        "a staging environment that the Q3 feature releases can be tested on.",
      status := .new, priority := .medium, assigneeId := some "user-2", client := "Internal",
      tags := ["devops", "infrastructure"], createdAt := july 28 11 30,
      currentStep := some "start" },
    { id := "case-3", appId := "app-1", title := "API Rate Limiting Investigation",
      description := "The customer API returns intermittent 429 responses. Find the source of " ++
        "the traffic spikes and check whether the current rate limits are appropriate.",
      status := .inProgress, priority := .urgent, assigneeId := some "user-3",
      client := "Apex Solutions", tags := ["api", "performance", "investigation"],
      createdAt := july 27 14 0, currentStep := some "triage",
      history := [left "start" "user-2" (july 27 15 0)] },
    { id := "case-4", appId := "app-3", title := "Onboard New Marketing Team Member",
      description := "A new marketing specialist starts next Monday. Prepare hardware, create " ++
        "the usual accounts and schedule introductory meetings.",
      status := .inProgress, priority := .low, assigneeId := some "user-2", client := "Internal",
      tags := ["onboarding", "hr"], createdAt := july 26 9 0, currentStep := some "approval",
      history := [left "start" "user-1" (july 26 10 0), left "triage" "user-1" (july 26 11 0)],
      formData :=
        [("triage-notes", .text
            "New hire setup requested by HR. Standard hardware and software access needed."),
          ("is-critical", .bool false)] },
    { id := "case-5", appId := "app-3", title := "Review and Approve Q2 Financial Report",
      description := "The Q2 financial report is ready for management review. Verify all " ++
        "figures and approve by end of day Friday.",
      status := .review, priority := .high, assigneeId := some "user-1", client := "Internal",
      tags := ["finance", "report", "review"], createdAt := july 25 16 45,
      currentStep := some "approval",
      history := [left "start" "user-2" (july 25 17 0), left "triage" "user-2" (july 25 18 0)],
      formData :=
        [("triage-notes", .text "Finance team has submitted the Q2 report for final sign-off."),
          ("is-critical", .bool true)] },
    { id := "case-6", appId := "app-2", title := "Update Third-Party SSL Certificate",
      description := "The wildcard API certificate expires in 14 days. Deploy the newly " ++
        "procured certificate across all production load balancers.",
      status := .closed, priority := .medium, assigneeId := some "user-3", client := "Global Tech",
      tags := ["security", "ssl", "completed"], createdAt := july 15 12 0,
      currentStep := some "end",
      history :=
        [left "start" "user-2" (july 15 12 30), left "triage" "user-2" (july 15 13 0),
          left "approval" "user-1" (july 15 14 0), left "investigate" "user-3" (july 16 9 0)],
      formData :=
        [("triage-notes", .text "SSL cert expiring soon. Coordinated with vendor."),
          ("is-critical", .bool true),
          ("investigation-summary", .text "Certificate rolled out to every load balancer.")] }]

end CaseFlow.Seed
