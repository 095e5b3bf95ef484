/-
# The policies of the coding agents (`plugins/claude-code`, `plugins/ticket2pr`)

`ticket2pr` runs Claude Code without a person at the keyboard.  Its policy repeats the rules of the
`claude-code` policy, with `BLOCK` in the place of `CONFIRM`, after rules of its own.

A policy tightens another when it declares the same actions and thresholds, blocks with every rule,
and keeps the conditions of the other's rules (`Tightens`).  Then a request that some rule matches
is blocked, and on any other request the two evaluations are the same up to the name of the policy,
so whatever is asked, the one is as strict as the other (`Tightens.refines`).

The two policies are asked for under their own ids, which no rule reads.
-/
import Axg.ExecutionRecords
import Axg.Hardening

namespace Axg

open Python

/-! ## 1. The same request to another policy -/

/-- The request, with the id of the policy that it is to be decided by. -/
def DecisionRequest.asking (request : DecisionRequest) (plugin : Plugin) : DecisionRequest :=
  { request with pluginId := plugin.plugin }

/-- No condition of a rule names `plugin_id`, so a request triggers the same rules under either
id and the two policies can be compared on it. -/
def Plugin.IgnoresId (plugin : Plugin) : Prop :=
  ∀ rule ∈ plugin.rules, ∀ c ∈ rule.conditions,
    (c.field.str.splitOn 0x2E).head? ≠ some (lit "plugin_id")

theorem lookup_dump_asking (request : DecisionRequest) (plugin : Plugin) (rest : Dict Json)
    {k : Str} (h : k ≠ lit "plugin_id") :
    ((request.asking plugin).dump ++ rest).lookup k = (request.dump ++ rest).lookup k := by
  simp only [DecisionRequest.dump, DecisionRequest.asking, strClaim, List.cons_append,
    List.nil_append, Dict.lookup_cons_ite, if_neg h]

theorem Plugin.IgnoresId.evaluateRules {plugin : Plugin} (h : plugin.IgnoresId) (py : Interpreter)
    (request : DecisionRequest) (verified : VerifiedContext) :
    evaluateRules py (ruleData (request.asking plugin) verified) plugin.rules =
      evaluateRules py (ruleData request verified) plugin.rules := by
  refine evaluateRules_congr (fun rule hrule c hc => fieldValue_congr (fun part hpart => ?_))
  refine lookup_dump_asking request plugin _ ?_
  rintro rfl
  exact h rule hrule c hc hpart

instance (plugin : Plugin) : Decidable plugin.IgnoresId :=
  inferInstanceAs (Decidable (∀ rule ∈ plugin.rules, ∀ c ∈ rule.conditions,
    (c.field.str.splitOn 0x2E).head? ≠ some (lit "plugin_id")))

/-! ## 2. Tightening -/

/-- The rule, blocking what it matches. -/
def PolicyRule.blocking (rule : PolicyRule) : PolicyRule := { rule with decision := .block }

/-- The second policy declares what the first one does, keeps its rules with `BLOCK`, and has no
rule with another decision.  Rules of either policy are evaluated for every request. -/
structure Tightens (plugin plugin' : Plugin) : Prop where
  actions : plugin'.actions = plugin.actions
  thresholds : plugin'.thresholds = plugin.thresholds
  gate : plugin'.uncertaintyGate = plugin.uncertaintyGate
  kept : ∀ rule ∈ plugin.rules, rule.blocking ∈ plugin'.rules
  blocks : ∀ rule ∈ plugin'.rules, rule.decision = .block
  quiet : ∀ rule ∈ plugin.rules ++ plugin'.rules, ∀ c ∈ rule.conditions, c.isQuiet = true
  ignoresId : plugin.IgnoresId ∧ plugin'.IgnoresId

/-- The second of two evaluations is as strict as the first: both raise the same exception, or both
decide, and then every rule that triggered in the first triggers in the second, which blocks if
there is one. -/
inductive Refines : Except PyError DecisionResponse → Except PyError DecisionResponse → Prop
  | raised (e : PyError) : Refines (.error e) (.error e)
  | decided (response response' : DecisionResponse)
      (decision : response.decision ≤ response'.decision)
      (rules : ∀ rule ∈ response.rulesTriggered,
        { rule with decision := .block } ∈ response'.rulesTriggered)
      (blocked : response.rulesTriggered ≠ [] → response'.decision = .block) :
    Refines (.ok response) (.ok response')

section

variable {request : DecisionRequest} {py : Interpreter} {sha : Sha256} {keys : KeyManager}
  {caller : Caller} {now now' : Clock} {uuid uuid' : Text} {plugin plugin' : Plugin}
  {verified : VerifiedContext} {fired fired' : List PolicyRule} {gated : Bool}

/-- A rule that triggers triggers as its blocking copy. -/
theorem Tightens.triggered (h : Tightens plugin plugin') {data : Json}
    (ht : evaluateRules py data plugin.rules = .ok fired)
    (ht' : evaluateRules py data plugin'.rules = .ok fired') :
    ∀ rule ∈ fired, rule.blocking ∈ fired' := by
  intro rule hrule
  rw [evaluateRules_eq_filter ht, List.mem_filter] at hrule
  rw [evaluateRules_eq_filter ht', List.mem_filter]
  exact ⟨h.kept rule hrule.1, hrule.2⟩

/-- A rule that triggers blocks. -/
theorem Tightens.blocked (h : Tightens plugin plugin') {data : Json}
    (ht' : evaluateRules py data plugin'.rules = .ok fired') (hne : fired' ≠ []) :
    (respond plugin' request caller sha keys now uuid verified fired' gated).decision = .block := by
  obtain ⟨rule, hrule⟩ := List.exists_mem_of_ne_nil _ hne
  have hmem : rule ∈ plugin'.rules := by
    rw [evaluateRules_eq_filter ht'] at hrule
    exact List.mem_of_mem_filter hrule
  have hvote : Decision.block ∈ votes plugin' request caller fired' gated :=
    mem_votes.mpr (.inl ⟨rule, hrule, h.blocks rule hmem⟩)
  refine le_antisymm (Decision.le_block _) ?_
  exact (le_finalDecision hvote).trans finalDecision_le_decision

/-- The decision of a response, with the Passport that can or cannot be signed. -/
theorem respond_decision :
    (respond plugin request caller sha keys now uuid verified fired gated).decision =
      let d := (unsignedVerdict plugin request caller verified fired gated).decision
      if d = .allow ∧ request.shadowMode = false ∧
          ((hashPayload sha (actionablePayload request fired)).isOk &&
            keys.privateKey.isSome) = false then .confirm
      else d := by
  rw [respond, signPassport_decision, passport_isOk]

/-- Where no rule triggers, only the actions, the thresholds and the gate of a policy decide. -/
theorem Tightens.respond_nil (h : Tightens plugin plugin') :
    (respond plugin' (request.asking plugin') caller sha keys now' uuid' verified []
        gated).decision =
      (respond plugin (request.asking plugin) caller sha keys now uuid verified [] gated).decision
    := by
  have haction : plugin'.action = plugin.action := by
    funext actionType
    rw [Plugin.action, Plugin.action, h.actions]
  have hmissing : missingContext plugin' (request.asking plugin') verified =
      missingContext plugin (request.asking plugin) verified := by
    rw [missingContext, missingContext, haction]
    rfl
  have hpermission : permissionDecision plugin' (request.asking plugin') caller =
      permissionDecision plugin (request.asking plugin) caller := by
    rw [permissionDecision, permissionDecision, haction]
    rfl
  have hunvoted : unvoted plugin' (request.asking plugin') =
      unvoted plugin (request.asking plugin) := by
    rw [unvoted, unvoted, haction, h.thresholds]
    rfl
  have hfinal : finalDecision plugin' (request.asking plugin') caller [] gated =
      finalDecision plugin (request.asking plugin) caller [] gated := by
    refine finalDecision_eq_of_votes (fun d => ?_) hunvoted
    rw [mem_votes, mem_votes, hpermission, h.gate]
    rfl
  have hunsigned : (unsignedVerdict plugin' (request.asking plugin') caller verified []
        gated).decision =
      (unsignedVerdict plugin (request.asking plugin) caller verified [] gated).decision := by
    rw [unsigned_decision, unsigned_decision, hmissing, hfinal]
  rw [respond_decision, respond_decision, hunsigned]
  rfl

/-- Where both evaluations get as far as a response, the second refines the first. -/
theorem Tightens.refines_respond (h : Tightens plugin plugin')
    (ht : evaluateRules py (ruleData request verified) plugin.rules = .ok fired)
    (ht' : evaluateRules py (ruleData request verified) plugin'.rules = .ok fired') :
    Refines
      (.ok (respond plugin (request.asking plugin) caller sha keys now uuid verified fired gated))
      (.ok (respond plugin' (request.asking plugin') caller sha keys now' uuid' verified fired'
        gated)) := by
  by_cases hne : fired' = []
  · -- then no rule of the first policy triggered
    have hnil : fired = [] := by
      refine List.eq_nil_iff_forall_not_mem.mpr (fun rule hrule => ?_)
      have hcopy := h.triggered ht ht' rule hrule
      rw [hne] at hcopy
      cases hcopy
    rw [hne, hnil]
    refine .decided _ _ h.respond_nil.ge ?_ ?_
    · intro rule hrule
      cases hrule
    · intro hnot
      exact absurd rfl hnot
  · have hblock : (respond plugin' (request.asking plugin') caller sha keys now' uuid' verified
        fired' gated).decision = .block := h.blocked ht' hne
    refine .decided _ _ (hblock ▸ Decision.le_block _) ?_ (fun _ => hblock)
    intro rule hrule
    obtain ⟨r, hr, rfl⟩ := List.mem_map.mp hrule
    exact List.mem_map.mpr ⟨r.blocking, h.triggered ht ht' r hr, rfl⟩

/-- A policy that tightens another is as strict, whatever is asked, by whom and when. -/
theorem Tightens.refines (h : Tightens plugin plugin') (request : DecisionRequest)
    (py : Interpreter) (sha : Sha256) (keys : KeyManager) (caller : Caller) (now now' : Clock)
    (uuid uuid' : Text) (context : Except PyError VerifiedContext) :
    Refines
      (decide (request.asking plugin) py sha keys caller now uuid (.ok plugin) context)
      (decide (request.asking plugin') py sha keys caller now' uuid' (.ok plugin') context) := by
  cases context with
  | error e => exact .raised e
  | ok verified =>
    obtain ⟨fired, ht⟩ := @evaluateRules_of_isQuiet py plugin.rules
      (fun rule hr => h.quiet rule (List.mem_append_left _ hr)) (ruleData request verified)
    obtain ⟨fired', ht'⟩ := @evaluateRules_of_isQuiet py plugin'.rules
      (fun rule hr => h.quiet rule (List.mem_append_right _ hr)) (ruleData request verified)
    have hgate : isGatedWrite plugin.uncertaintyGate (request.asking plugin') =
        isGatedWrite plugin.uncertaintyGate (request.asking plugin) := rfl
    simp only [decide, ok_bind, evaluate, h.ignoresId.1.evaluateRules,
      h.ignoresId.2.evaluateRules, ht, ht', h.gate, hgate]
    cases isGatedWrite plugin.uncertaintyGate (request.asking plugin) with
    | error e => exact .raised e
    | ok gated =>
      simp only [ok_bind]
      -- the log is written from the request alone, so it fails for both or for neither
      by_cases hlog : request.Loggable
      · have hlogged : ∀ (p : Plugin) (response : DecisionResponse),
            logged (request.asking p) response = .ok response :=
          fun p response => logged_eq_ok.mpr ⟨rfl, hlog⟩
        rw [hlogged, hlogged]
        exact h.refines_respond ht ht'
      · have hlogged : ∀ (p : Plugin) (response : DecisionResponse),
            logged (request.asking p) response = .error .valueError :=
          fun p response => @logged_eq_error (request.asking p) response hlog
        rw [hlogged, hlogged]
        exact .raised _

end

/-! ## 3. Rules on tools -/

/-- A score in hundredths. -/
def hundredths (n : Nat) (h : n ≤ 100 := by decide) : Score where
  val := n / 100
  nonneg := by positivity
  le_one := by
    rw [div_le_one (by norm_num)]
    exact_mod_cast h

theorem wf_texts (texts : List String) :
    (Json.arr (texts.map (fun t => .str (lit t)))).Wf := by
  refine Json.wf_arr.mpr (fun v hv => ?_)
  obtain ⟨t, -, rfl⟩ := List.mem_map.mp hv
  rfl

/-- `action_type` is in a list. -/
def actionIn (tools : List String) : RuleCondition where
  field := .lit "action_type"
  operator := .isIn
  value := .arr (tools.map (fun t => .str (lit t)))
  wf := wf_texts tools

/-- A field contains a text. -/
def fieldContains (field text : String) : RuleCondition where
  field := .lit field
  operator := .contains
  value := .str (lit text)
  wf := rfl

/-- A rule on the tools of a list, and on one of the conditions if there are any. -/
def toolRule (id : String) (tools : List String) (any : Option (List RuleCondition))
    (decision : Decision) (reason : String) (riskDelta : Score) (auditFlags : List String) :
    PolicyRule where
  id := .lit id
  condition := ⟨some [actionIn tools], any, .inl (List.cons_ne_nil _ _)⟩
  decision := decision
  reason := .lit reason
  confidencePenalty := hundredths 0
  riskDelta := riskDelta
  actionablePayload := .empty
  auditFlags := auditFlags.map Text.lit
  approverRole := none

/-- An action of which only the base risk is given. -/
def ActionPolicy.ofBaseRisk (baseRisk : Score) : ActionPolicy :=
  { ActionPolicy.default with baseRisk := baseRisk }

/-! ## 4. `plugins/claude-code/rules.json` -/

namespace ClaudeCode

def thresholds : Thresholds where
  allowMinConfidence := hundredths 85
  suggestMinConfidence := hundredths 65
  highRiskThreshold := hundredths 80

def actions : Dict ActionPolicy :=
  [(lit "Read", .ofBaseRisk (hundredths 5)), (lit "Glob", .ofBaseRisk (hundredths 5)),
    (lit "Grep", .ofBaseRisk (hundredths 5)), (lit "WebSearch", .ofBaseRisk (hundredths 10)),
    (lit "WebFetch", .ofBaseRisk (hundredths 20)), (lit "Edit", .ofBaseRisk (hundredths 30)),
    (lit "Write", .ofBaseRisk (hundredths 35)), (lit "NotebookEdit", .ofBaseRisk (hundredths 30)),
    (lit "Bash", .ofBaseRisk (hundredths 50)), (lit "PowerShell", .ofBaseRisk (hundredths 50))]

def destructiveShellCommand : PolicyRule :=
  toolRule "destructive_shell_command" ["Bash", "PowerShell"]
    (some [fieldContains "payload.command" "rm -rf /", fieldContains "payload.command" "rm -rf ~",
      fieldContains "payload.command" "rm -rf *", fieldContains "payload.command" "mkfs",
      fieldContains "payload.command" "dd if=", fieldContains "payload.command" "format c:",
      fieldContains "payload.command" "Remove-Item -Recurse -Force C:\\"])
    .block "This command can irreversibly destroy files or devices." (hundredths 50) []

def remoteScriptPipedToShell : PolicyRule :=
  toolRule "remote_script_piped_to_shell" ["Bash", "PowerShell"]
    (some [fieldContains "payload.command" "| sh", fieldContains "payload.command" "| bash",
      fieldContains "payload.command" "|sh", fieldContains "payload.command" "|bash",
      fieldContains "payload.command" "iex (iwr",
      fieldContains "payload.command" "Invoke-Expression (Invoke-WebRequest"])
    .block "Downloaded scripts must not be piped straight into a shell." (hundredths 40) []

def historyRewriteOrHardReset : PolicyRule :=
  toolRule "history_rewrite_or_hard_reset" ["Bash", "PowerShell"]
    (some [fieldContains "payload.command" "push --force",
      fieldContains "payload.command" "push -f", fieldContains "payload.command" "reset --hard",
      fieldContains "payload.command" "clean -fd", fieldContains "payload.command" "branch -D"])
    .confirm "This Git operation can discard work or rewrite shared history." (hundredths 30) []

def productionDeploy : PolicyRule :=
  toolRule "production_deploy" ["Bash", "PowerShell"]
    (some [fieldContains "payload.command" "firebase deploy",
      fieldContains "payload.command" "terraform apply",
      fieldContains "payload.command" "terraform destroy",
      fieldContains "payload.command" "kubectl delete",
      fieldContains "payload.command" "gcloud run deploy",
      fieldContains "payload.command" "docker compose -f docker-compose.ia.yml up"])
    .confirm "This command changes live infrastructure." (hundredths 30) []

def secretFiles : PolicyRule :=
  toolRule "secret_files" ["Read", "Edit", "Write", "NotebookEdit"]
    (some [fieldContains "payload.file_path" ".env", fieldContains "payload.file_path" "id_rsa",
      fieldContains "payload.file_path" ".pem", fieldContains "payload.file_path" "serviceaccount",
      fieldContains "payload.file_path" "credentials", fieldContains "payload.file_path" ".key"])
    .confirm "This file looks like it holds credentials or secrets." (hundredths 30) []

def policy : Plugin :=
  { Plugin.default (.lit "claude-code") (.lit "0.1.0") with
    thresholds := thresholds
    actions := actions
    nodup := by decide
    rules := [destructiveShellCommand, remoteScriptPipedToShell, historyRewriteOrHardReset,
      productionDeploy, secretFiles] }

end ClaudeCode

/-! ## 5. `plugins/ticket2pr/rules.json` -/

namespace Ticket2pr

def thresholds : Thresholds where
  allowMinConfidence := hundredths 85
  suggestMinConfidence := hundredths 65
  highRiskThreshold := hundredths 80

def actions : Dict ActionPolicy :=
  [(lit "Read", .ofBaseRisk (hundredths 5)), (lit "Glob", .ofBaseRisk (hundredths 5)),
    (lit "Grep", .ofBaseRisk (hundredths 5)), (lit "WebSearch", .ofBaseRisk (hundredths 10)),
    (lit "WebFetch", .ofBaseRisk (hundredths 20)), (lit "Edit", .ofBaseRisk (hundredths 30)),
    (lit "Write", .ofBaseRisk (hundredths 35)), (lit "NotebookEdit", .ofBaseRisk (hundredths 30)),
    (lit "Bash", .ofBaseRisk (hundredths 50)), (lit "PowerShell", .ofBaseRisk (hundredths 50))]

def agentMustNotPublish : PolicyRule :=
  toolRule "agent_must_not_publish" ["Bash", "PowerShell"]
    (some [fieldContains "payload.command" "git push", fieldContains "payload.command" "gh pr",
      fieldContains "payload.command" "gh api", fieldContains "payload.command" "gh repo",
      fieldContains "payload.command" "acli "])
    .block ("The agent only edits and tests code; ticket2pr pushes the branch and opens the " ++
      "pull request.") (hundredths 60) ["agent_publish_attempt"]

def credentialAccess : PolicyRule :=
  toolRule "credential_access" ["Bash", "PowerShell"]
    (some [fieldContains "payload.command" "gh auth", fieldContains "payload.command" ".config/gh",
      fieldContains "payload.command" "hosts.yml", fieldContains "payload.command" ".config/acli",
      fieldContains "payload.command" "security find-",
      fieldContains "payload.command" ".git-credentials", fieldContains "payload.command" ".netrc"])
    .block ("This command reads the GitHub or Jira credentials of the developer running " ++
      "ticket2pr.") (hundredths 90) ["credential_access_attempt"]

def networkEgress : PolicyRule :=
  toolRule "network_egress" ["Bash", "PowerShell"]
    (some [fieldContains "payload.command" "curl ", fieldContains "payload.command" "wget ",
      fieldContains "payload.command" "nc ", fieldContains "payload.command" "Invoke-WebRequest"])
    .block ("The agent makes no network calls of its own; dependencies come through the package " ++
      "manager.") (hundredths 40) ["network_egress"]

def credentialFiles : PolicyRule :=
  toolRule "credential_files" ["Read", "Edit", "Write", "NotebookEdit", "Grep", "Glob"]
    (some (["payload.file_path", "payload.notebook_path", "payload.path"].flatMap (fun field =>
      [fieldContains field ".config/gh", fieldContains field "hosts.yml",
        fieldContains field ".config/acli", fieldContains field ".git-credentials",
        fieldContains field ".netrc"])))
    .block ("This file holds the GitHub, Jira or git credentials of the developer running " ++
      "ticket2pr.") (hundredths 90) ["credential_access_attempt"]

def webTools : PolicyRule :=
  toolRule "web_tools" ["WebFetch", "WebSearch"] none
    .block "The agent makes no network calls of its own, including web fetches and searches."
    (hundredths 40) ["network_egress"]

def destructiveShellCommand : PolicyRule :=
  toolRule "destructive_shell_command" ["Bash", "PowerShell"]
    (some [fieldContains "payload.command" "rm -rf /", fieldContains "payload.command" "rm -rf ~",
      fieldContains "payload.command" "rm -rf *", fieldContains "payload.command" "mkfs",
      fieldContains "payload.command" "dd if=", fieldContains "payload.command" "format c:",
      fieldContains "payload.command" "Remove-Item -Recurse -Force C:\\"])
    .block "This command can irreversibly destroy files or devices." (hundredths 50) []

def remoteScriptPipedToShell : PolicyRule :=
  toolRule "remote_script_piped_to_shell" ["Bash", "PowerShell"]
    (some [fieldContains "payload.command" "| sh", fieldContains "payload.command" "| bash",
      fieldContains "payload.command" "|sh", fieldContains "payload.command" "|bash",
      fieldContains "payload.command" "iex (iwr",
      fieldContains "payload.command" "Invoke-Expression (Invoke-WebRequest"])
    .block "Downloaded scripts must not be piped straight into a shell." (hundredths 40) []

def historyRewriteOrHardReset : PolicyRule :=
  toolRule "history_rewrite_or_hard_reset" ["Bash", "PowerShell"]
    (some [fieldContains "payload.command" "push --force",
      fieldContains "payload.command" "push -f", fieldContains "payload.command" "reset --hard",
      fieldContains "payload.command" "clean -fd", fieldContains "payload.command" "branch -D"])
    .block "This Git operation can discard work or rewrite shared history." (hundredths 30) []

def productionDeploy : PolicyRule :=
  toolRule "production_deploy" ["Bash", "PowerShell"]
    (some [fieldContains "payload.command" "firebase deploy",
      fieldContains "payload.command" "terraform apply",
      fieldContains "payload.command" "terraform destroy",
      fieldContains "payload.command" "kubectl delete",
      fieldContains "payload.command" "gcloud run deploy",
      fieldContains "payload.command" "docker compose -f docker-compose.ia.yml up"])
    .block "This command changes live infrastructure." (hundredths 30) []

def secretFiles : PolicyRule :=
  toolRule "secret_files" ["Read", "Edit", "Write", "NotebookEdit"]
    (some [fieldContains "payload.file_path" ".env", fieldContains "payload.file_path" "id_rsa",
      fieldContains "payload.file_path" ".pem", fieldContains "payload.file_path" "serviceaccount",
      fieldContains "payload.file_path" "credentials", fieldContains "payload.file_path" ".key"])
    .block "This file looks like it holds credentials or secrets." (hundredths 30) []

def policy : Plugin :=
  { Plugin.default (.lit "ticket2pr") (.lit "0.1.0") with
    thresholds := thresholds
    actions := actions
    nodup := by decide
    rules := [agentMustNotPublish, credentialAccess, networkEgress, credentialFiles, webTools,
      destructiveShellCommand, remoteScriptPipedToShell, historyRewriteOrHardReset,
      productionDeploy, secretFiles] }

end Ticket2pr

/-! ## 6. One refines the other -/

/-- The rules of `claude-code` are the last ones of `ticket2pr`, where they block. -/
theorem rules_kept : ∃ own, Ticket2pr.policy.rules =
    own ++ ClaudeCode.policy.rules.map PolicyRule.blocking :=
  ⟨[Ticket2pr.agentMustNotPublish, Ticket2pr.credentialAccess, Ticket2pr.networkEgress,
    Ticket2pr.credentialFiles, Ticket2pr.webTools], rfl⟩

theorem tightens_claudeCode : Tightens ClaudeCode.policy Ticket2pr.policy where
  actions := rfl
  thresholds := rfl
  gate := rfl
  kept := by
    obtain ⟨own, hrules⟩ := rules_kept
    intro rule hrule
    rw [hrules]
    exact List.mem_append_right _ (List.mem_map.mpr ⟨rule, hrule, rfl⟩)
  blocks := by decide +kernel
  quiet := by decide +kernel
  ignoresId := ⟨by decide +kernel, by decide +kernel⟩

/-- `ticket2pr` decides on every request with a context that was verified, a log line that can be
written and no list or object where the name of an action is looked for. -/
theorem ticket2pr_decides_iff {request : DecisionRequest} {py : Interpreter} {sha : Sha256}
    {keys : KeyManager} {caller : Caller} {now : Clock} {uuid : Text}
    {context : Except PyError VerifiedContext} :
    (∃ response, decide (request.asking Ticket2pr.policy) py sha keys caller now uuid
        (.ok Ticket2pr.policy) context = .ok response) ↔
      request.Loggable ∧ (∃ verified, context = .ok verified) ∧
        isUnhashable (request.payload.get "proposed_action") = false ∧
        isUnhashable (request.intent.get "resolved") = false := by
  have hrules : ∀ data, ∃ fired, evaluateRules py data Ticket2pr.policy.rules = .ok fired :=
    evaluateRules_of_isQuiet (fun rule hr =>
      tightens_claudeCode.quiet rule (List.mem_append_right _ hr))
  have hgate : (∃ gated, isGatedWrite Ticket2pr.policy.uncertaintyGate
        (request.asking Ticket2pr.policy) = .ok gated) ↔
      isUnhashable (request.payload.get "proposed_action") = false ∧
        isUnhashable (request.intent.get "resolved") = false := by
    have hnone : Ticket2pr.policy.uncertaintyGate.actions = [] := rfl
    rw [isGatedWrite_isOk_iff, hnone]
    simp [DecisionRequest.asking]
  rw [decide_isOk_iff, ← hgate]
  refine and_congr Iff.rfl ⟨fun h => ?_, fun ⟨⟨verified, hv⟩, hg⟩ plugin hp => ?_⟩
  · obtain ⟨verified, hv, -, hg⟩ := h _ rfl
    exact ⟨⟨verified, hv⟩, hg⟩
  · cases hp
    exact ⟨verified, hv, hrules _, hg⟩

/-- The `ticket2pr` policy refines the `claude-code` policy, and gives a decision on every
request that can be decided.  It keeps every rule and makes it a `BLOCK`, so what triggers there
blocks here; and its default, for what no rule is about, is no milder. -/
theorem ticket2pr_refines_claudeCode (request : DecisionRequest) (py : Interpreter) (sha : Sha256)
    (keys : KeyManager) (caller : Caller) (now now' : Clock) (uuid uuid' : Text)
    (context : Except PyError VerifiedContext) :
    Refines
        (decide (request.asking ClaudeCode.policy) py sha keys caller now uuid
          (.ok ClaudeCode.policy) context)
        (decide (request.asking Ticket2pr.policy) py sha keys caller now' uuid'
          (.ok Ticket2pr.policy) context) ∧
      ((∃ response, decide (request.asking Ticket2pr.policy) py sha keys caller now' uuid'
          (.ok Ticket2pr.policy) context = .ok response) ↔
        request.Loggable ∧ (∃ verified, context = .ok verified) ∧
          isUnhashable (request.payload.get "proposed_action") = false ∧
          isUnhashable (request.intent.get "resolved") = false) :=
  ⟨tightens_claudeCode.refines request py sha keys caller now now' uuid uuid' context,
    ticket2pr_decides_iff⟩

/-- The agent wants to throw its changes away. -/
def resetRequest : DecisionRequest :=
  { payRequest with
    actionType := .lit "Bash"
    payload := ⟨[(lit "command", .str (lit "git reset --hard"))], by decide⟩ }

example : evaluateGroup plainInterpreter ClaudeCode.historyRewriteOrHardReset.condition
    (ruleData resetRequest .none) = .ok true := rfl

end Axg
