import NexsKernel.CSpace.Boot
import NexsKernel.Lib.Failing
import NexsKernel.Mcs.Consistency
import NexsKernel.System.Decode

/-!
# Requests that are refused

A decode function checks everything before it changes anything, and an invocation that has started is not refused
any more. So a request that is refused leaves the kernel as it was, but for the globals for errors.
-/

namespace NexsKernel.Decode

open Failing
open Function (update)

variable {α : Type} {env : Env} {msg : Message}

/-- `EXCEPTION_SYSCALL_ERROR`. -/
def Refused (e : Stop) : Prop :=
  e = .exception .syscallError

/-! ## Checks -/

lemma keeps_syscallError (e : SyscallError) : Keeps System.core (syscallError e : Decode α) := fun _ => rfl

lemma keeps_setLookupFault (fault : LookupFault) : Keeps System.core (setLookupFault fault) := fun _ => rfl

lemma keeps_capOf (slot : Slot) : Keeps System.core (capOf slot) := fun _ => rfl

lemma keeps_refuse (c : Prop) [Decidable c] (e : SyscallError) : Keeps System.core (refuse c e) := by
  unfold refuse
  split
  · exact keeps_syscallError e
  · exact .pure ()

lemma keeps_check (f : System → Except SyscallError α) : Keeps System.core (check f) := by
  unfold check
  refine .bind .get fun s => ?_
  split
  · exact .pure _
  · exact keeps_syscallError _

lemma keeps_refuseOn (c : Mcs.Kernel → Prop) [DecidablePred c] (e : SyscallError) :
    Keeps System.core (refuseOn c e) := by
  unfold refuseOn
  exact .bind .get fun _ => keeps_refuse _ e

lemma keeps_extraSlot (i : Nat) : Keeps System.core (extraSlot msg i) := by
  unfold extraSlot
  split
  · exact .pure _
  · exact keeps_syscallError _

lemma keeps_ensureNoChildren (slot : Slot) : Keeps System.core (ensureNoChildren slot) := by
  unfold ensureNoChildren
  refine .bind .get fun s => ?_
  split
  · exact .pure _
  · exact .bind (.modify fun _ => rfl) fun _ => .pure _

/-! ## Lookups -/

lemma keeps_lookupFault (fault : LookupFault) :
    Keeps System.core (do setLookupFault fault; throw (.exception .lookupFault) : Decode α) :=
  .bind (keeps_setLookupFault fault) fun _ => .throw _

lemma keeps_resolveLevels (capptr fuel : Nat) (cap : Cap) (nBits : Nat) :
    Keeps System.core (resolveLevels capptr fuel cap nBits) := by
  induction fuel generalizing cap nBits with
  | zero => exact .throw _
  | succ fuel ih =>
    cases cap with
    | cnode radix size guard ptr =>
      unfold resolveLevels
      extract_lets levelBits guard' offset slot
      split
      · exact .throw _
      · split
        · exact keeps_lookupFault _
        · split
          · exact keeps_lookupFault _
          · split
            · exact .pure _
            · refine .bind (keeps_capOf _) fun cap => ?_
              split
              · exact ih _ _
              · exact .pure _
    | _ => exact .pure _

lemma keeps_resolveAddressBits (cap : Cap) (capptr nBits : Nat) :
    Keeps System.core (resolveAddressBits cap capptr nBits) := by
  unfold resolveAddressBits
  split
  · exact keeps_resolveLevels _ _ _ _
  · exact keeps_lookupFault _

lemma keeps_orFailedLookup {source : Bool} {m : Decode α} (h : Keeps System.core m) :
    Keeps System.core (orFailedLookup source m) := by
  intro s
  unfold orFailedLookup
  split
  · rename_i s' e
    exact (keeps_syscallError (α := α) _ s').trans (h.of_error e)
  · exact h s

lemma keeps_lookupSlotForCNodeOp (source : Bool) (root : Cap) (capptr depth : Nat) :
    Keeps System.core (lookupSlotForCNodeOp source root capptr depth) := by
  unfold lookupSlotForCNodeOp
  split
  · refine .bind (keeps_refuse _ _) fun _ => ?_
    refine .bind (keeps_orFailedLookup (keeps_resolveAddressBits _ _ _)) fun r => ?_
    dsimp only
    split
    · exact .bind (keeps_setLookupFault _) fun _ => keeps_syscallError _
    · exact .pure _
  · exact .bind (keeps_setLookupFault _) fun _ => keeps_syscallError _

/-! ## Invocations -/

lemma avoids_onKernel (f : Mcs.Kernel → Mcs.Kernel) : Avoids Refused (onKernel f) := .modify _

lemma avoids_restartCurrent : Avoids Refused restartCurrent := avoids_onKernel _

lemma avoids_onCSpace (f : CSpace → Except Halt (Status × CSpace)) : Avoids Refused (onCSpace f) := by
  unfold onCSpace
  refine .bind .get fun s => ?_
  split
  · refine .bind (.modify _) fun _ => ?_
    split
    · exact .throw nofun
    · exact .pure ()
  · exact .throw nofun

lemma avoids_invokeUntypedRetype {slot args} : Avoids Refused (invokeUntypedRetype env slot args) :=
  .bind (avoids_onKernel _) fun _ => avoids_onCSpace _

lemma avoids_cancelBadgedSends {cap} : Avoids Refused (invokeCNodeCancelBadgedSends env cap) := by
  unfold invokeCNodeCancelBadgedSends
  split
  · exact avoids_onKernel _
  · exact .pure _

/-! ## Decode functions -/

/-- A request that is refused has changed nothing. -/
def Clean (m : Decode α) : Prop :=
  FailsClean System.core Refused m

namespace Clean

variable {m : Decode α} {e : SyscallError}

lemma bind {β : Type} {m : Decode β} {k : β → Decode α} (hm : Keeps System.core m) (hk : ∀ b, Clean (k b)) :
    Clean (m >>= k) :=
  FailsClean.bind hm hk

/-- What has started is not refused. -/
lemma perform (h : Avoids Refused m) : Clean (do restartCurrent; m) :=
  (Avoids.bind avoids_restartCurrent fun _ => h).failsClean

lemma onKernel {f : Mcs.Kernel → Mcs.Kernel} : Clean (do restartCurrent; Decode.onKernel f) :=
  perform (avoids_onKernel f)

lemma syscallError : Clean (Decode.syscallError e : Decode α) := (keeps_syscallError e).failsClean

lemma missingCapability {source : Bool} {depth : Nat} :
    Clean (do setLookupFault (.missingCapability depth); Decode.syscallError (.failedLookup source) : Decode α) :=
  (Keeps.bind (keeps_setLookupFault _) fun _ => keeps_syscallError _).failsClean

lemma refuse {c : Prop} [Decidable c] (h : Clean m) : Clean (do Decode.refuse c e; m) :=
  bind (keeps_refuse c e) fun _ => h

lemma refuseOn {c : Mcs.Kernel → Prop} [DecidablePred c] (h : Clean m) : Clean (do Decode.refuseOn c e; m) :=
  bind (keeps_refuseOn c e) fun _ => h

lemma check {β : Type} {f : System → Except SyscallError β} {k : β → Decode α} (h : ∀ b, Clean (k b)) :
    Clean (Decode.check f >>= k) :=
  bind (keeps_check f) h

lemma capOf {slot : Slot} {k : Cap → Decode α} (h : ∀ cap, Clean (k cap)) : Clean (Decode.capOf slot >>= k) :=
  bind (keeps_capOf slot) h

lemma extraSlot {i : Nat} {k : Slot → Decode α} (h : ∀ slot, Clean (k slot)) :
    Clean (Decode.extraSlot msg i >>= k) :=
  bind (keeps_extraSlot i) h

lemma lookup {source : Bool} {root : Cap} {capptr depth : Nat} {k : Slot → Decode α} (h : ∀ slot, Clean (k slot)) :
    Clean (lookupSlotForCNodeOp source root capptr depth >>= k) :=
  bind (keeps_lookupSlotForCNodeOp source root capptr depth) h

end Clean

lemma keeps_decodeCopyOp (label : InvocationLabel) : Keeps System.core (decodeCopyOp msg label) := by
  unfold decodeCopyOp
  split
  · exact .bind (keeps_refuse _ _) fun _ => .pure _
  · exact .bind (keeps_refuse _ _) fun _ => .pure _
  · exact .pure _
  · exact .bind (keeps_refuse _ _) fun _ => .pure _

lemma clean_decodeCNodeCopy (label : InvocationLabel) (destSlot : Slot) :
    Clean (decodeCNodeCopy msg label destSlot) := by
  unfold decodeCNodeCopy
  refine .refuse (.extraSlot fun rootSlot => .capOf fun srcRoot => .check fun _ => ?_)
  refine .lookup fun srcSlot => .capOf fun cap => ?_
  split
  · exact .missingCapability
  · exact .bind (keeps_decodeCopyOp label) fun op => .check fun newCap => .refuse (.perform (avoids_onCSpace _))

lemma keeps_ensureRotateSlot (srcSlot destSlot : Slot) : Keeps System.core (ensureRotateSlot srcSlot destSlot) := by
  unfold ensureRotateSlot
  split
  · exact keeps_check _
  · exact .pure _

lemma clean_decodeCNodeRotate (destSlot : Slot) : Clean (decodeCNodeRotate msg destSlot) := by
  unfold decodeCNodeRotate
  refine .refuse (.extraSlot fun pivotRootSlot => .extraSlot fun srcRootSlot => ?_)
  refine .capOf fun pivotRoot => .capOf fun srcRoot => ?_
  refine .lookup fun srcSlot => .lookup fun pivotSlot => .refuse (.bind (keeps_ensureRotateSlot _ _) fun _ => ?_)
  refine .capOf fun srcCap => .capOf fun pivotCap => ?_
  split
  · exact .missingCapability
  · split
    · exact .missingCapability
    · exact .refuse (.refuse (.perform (avoids_onCSpace _)))

lemma clean_decodeCNodeInvocation (label : InvocationLabel) (cap : Cap) :
    Clean (decodeCNodeInvocation env msg label cap) := by
  unfold decodeCNodeInvocation
  refine .refuse (.refuse (.lookup fun destSlot => ?_))
  split
  · exact .perform (.bind (avoids_onKernel _) fun _ => avoids_onCSpace _)
  · exact .perform (.bind (avoids_onKernel _) fun _ => avoids_onCSpace _)
  · refine .capOf fun destCap => ?_
    split
    · exact .refuse (.perform avoids_cancelBadgedSends)
    · exact .syscallError
  · exact clean_decodeCNodeRotate destSlot
  · exact clean_decodeCNodeCopy _ destSlot

lemma keeps_decodeNodeCap (rootSlot : Slot) : Keeps System.core (decodeNodeCap msg rootSlot) := by
  unfold decodeNodeCap
  refine .bind (keeps_capOf _) fun rootCap => ?_
  split
  · exact .pure _
  · exact .bind (keeps_lookupSlotForCNodeOp _ _ _ _) fun slot => keeps_capOf slot

lemma clean_decodeUntypedInvocation (label : InvocationLabel) (slot : Slot) (cap : Cap) :
    Clean (decodeUntypedInvocation env msg label slot cap) := by
  unfold decodeUntypedInvocation
  split
  · refine .refuse (.refuse (.extraSlot fun rootSlot => .check fun t => ?_))
    refine .bind (keeps_decodeNodeCap rootSlot) fun nodeCap => ?_
    split
    · unfold decodeRetypeInto
      refine .refuse (.refuse (.refuse (.check fun _ => ?_)))
      refine .bind (keeps_ensureNoChildren slot) fun reset => ?_
      exact .refuse (.refuse (.perform avoids_invokeUntypedRetype))
    · exact .missingCapability
  · exact (Keeps.throw _).failsClean

lemma clean_decodeSchedControlInvocation (label : InvocationLabel) (core : Nat) :
    Clean (decodeSchedControlInvocation env msg label core) := by
  unfold decodeSchedControlInvocation
  split
  · unfold decodeSchedControlConfigureFlags
    refine .extraSlot fun targetSlot => .refuse (.refuse (.refuse (.refuse (.refuse (.refuse ?_)))))
    refine .capOf fun targetCap => ?_
    split
    · exact .refuse .onKernel
    · exact .syscallError
  · exact .syscallError

lemma clean_decodeSchedContextBind (sc : Mcs.ScPtr) : Clean (decodeSchedContextBind env msg sc) := by
  unfold decodeSchedContextBind
  refine .extraSlot fun slot => .capOf fun cap => ?_
  split
  · exact .refuseOn (.refuseOn (.refuseOn .onKernel))
  · exact .refuseOn (.refuseOn .onKernel)
  · exact .syscallError

lemma clean_decodeSchedContextUnbindObject (sc : Mcs.ScPtr) :
    Clean (decodeSchedContextUnbindObject env msg sc) := by
  unfold decodeSchedContextUnbindObject
  refine .extraSlot fun slot => .capOf fun cap => ?_
  split
  · exact .refuseOn (.refuseOn .onKernel)
  · exact .refuseOn .onKernel
  · exact .syscallError

lemma clean_decodeSchedContextYieldTo (sc : Mcs.ScPtr) (call : Bool) :
    Clean (decodeSchedContextYieldTo env sc call) := by
  unfold decodeSchedContextYieldTo
  refine .bind .get fun s => ?_
  split
  · exact .syscallError
  · exact .refuseOn (.refuseOn (.refuseOn .onKernel))

lemma clean_decodeSchedContextLabel (label : InvocationLabel) (sc : Mcs.ScPtr) (call : Bool) :
    Clean (decodeSchedContextLabel env msg label sc call) := by
  unfold decodeSchedContextLabel
  split
  · exact .onKernel
  · exact clean_decodeSchedContextBind sc
  · exact clean_decodeSchedContextUnbindObject sc
  · exact .refuseOn .onKernel
  · exact clean_decodeSchedContextYieldTo sc call
  · exact .syscallError

lemma clean_decodeDomainSetSet : Clean (decodeDomainSetSetInvocation env msg) := by
  unfold decodeDomainSetSetInvocation
  refine .refuse (.refuse (.extraSlot fun slot => .capOf fun cap => ?_))
  split
  · exact .onKernel
  · exact .syscallError

lemma clean_decodeDomainScheduleConfigure : Clean (decodeDomainScheduleConfigure env msg) := by
  unfold decodeDomainScheduleConfigure
  exact .refuse (.refuse (.refuse (.refuse (.refuse (.refuseOn .onKernel)))))

lemma clean_decodeDomainScheduleSetStart : Clean (decodeDomainScheduleSetStart env msg) := by
  unfold decodeDomainScheduleSetStart
  exact .refuse (.refuse (.refuseOn .onKernel))

lemma clean_decodeDomainInvocation (label : InvocationLabel) : Clean (decodeDomainInvocation env msg label) := by
  unfold decodeDomainInvocation
  split
  · exact clean_decodeDomainSetSet
  · exact clean_decodeDomainScheduleConfigure
  · exact clean_decodeDomainScheduleSetStart
  · exact .syscallError

/-- A decode function, with the capability that is invoked and the scheduling context, if it is one. -/
inductive Decodes (env : Env) (msg : Message) (label : InvocationLabel) : Option Mcs.ScPtr → Decode Unit → Prop
  | cnode (cap : Cap) : Decodes env msg label none (decodeCNodeInvocation env msg label cap)
  | untyped (slot : Slot) (cap : Cap) : Decodes env msg label none (decodeUntypedInvocation env msg label slot cap)
  | schedControl (core : Nat) : Decodes env msg label none (decodeSchedControlInvocation env msg label core)
  | schedContext (sc : Mcs.ScPtr) (call : Bool) :
      Decodes env msg label (some sc) (decodeSchedContextInvocation env msg label sc call)
  | domain : Decodes env msg label none (decodeDomainInvocation env msg label)

/-- Nothing is stalled if no other core runs the thread of the context. -/
lemma maybeStallSC_cases (env : Env) (s : System) (sc : Mcs.ScPtr) :
    s.maybeStallSC env sc = s ∨ ∃ t, s.kernel.scTcb sc = some t ∧ s.RunsRemotely env t ∧
      s.maybeStallSC env sc = s.remoteTCBStall env t := by
  unfold System.maybeStallSC
  split
  · rename_i t hsc
    by_cases h : s.RunsRemotely env t
    · exact .inr ⟨t, hsc, h, rfl⟩
    · exact .inl (if_neg h)
  · exact .inl rfl

/-- A request that is refused leaves the slots, the objects and the schedulers as they were, unless another core runs
the thread of the scheduling context that is invoked; then all that has happened is that this core was stalled. -/
theorem refused_unchanged {env : Env} {msg : Message} {label : InvocationLabel} {sc : Option Mcs.ScPtr}
    {decode : Decode Unit} (h : Decodes env msg label sc decode) {s s' : System}
    (e : decode s = .error (.exception .syscallError) s') :
    s'.core = s.core ∨ env.smp = true ∧ ∃ c t, sc = some c ∧ s.kernel.scTcb c = some t ∧ s.RunsRemotely env t ∧
      s'.core = (s.remoteTCBStall env t).core := by
  cases h with
  | cnode cap => exact .inl (clean_decodeCNodeInvocation label cap s _ s' e rfl)
  | untyped slot cap => exact .inl (clean_decodeUntypedInvocation label slot cap s _ s' e rfl)
  | schedControl core => exact .inl (clean_decodeSchedControlInvocation label core s _ s' e rfl)
  | schedContext sc call =>
    have clean := clean_decodeSchedContextLabel label sc call (if env.smp then s.maybeStallSC env sc else s) _ s' e rfl
    cases hsmp : env.smp with
    | false =>
      rw [hsmp, if_neg Bool.false_ne_true] at clean
      exact .inl clean
    | true =>
      rw [hsmp, if_pos rfl] at clean
      rcases maybeStallSC_cases env s sc with hsame | ⟨t, hsc, hremote, hstall⟩
      · exact .inl (hsame ▸ clean)
      · exact .inr ⟨rfl, sc, t, rfl, hsc, hremote, hstall ▸ clean⟩
  | domain => exact .inl (clean_decodeDomainInvocation label s _ s' e rfl)

/-- A core on which nothing is ready. -/
def idleNode : SmpNode where
  ksReadyQueues := fun _ => ⟨none, none⟩
  ksReadyQueuesL1Bitmap := fun _ => 0
  ksReadyQueuesL2Bitmap := fun _ _ => 0
  ksCurThread := 6
  ksIdleThread := 6
  ksSchedulerAction := .resumeCurrentThread
  ksReleaseQueue := ⟨none, none⟩
  ksConsumed := 0
  ksCurTime := 0
  ksReprogram := false
  ksCurSC := 7
  ksIdleSC := 7

/-- The machine that has just booted. -/
def bootSystem : System where
  cspace := CSpace.bootState (armVirt 1) armVirtBoot
  kernel := (Mcs.Kernel.boot Mcs.qemuConfig 1 2 3 4 5).exitKernel Mcs.qemuConfig
  nodes := fun _ => idleNode
  tcbAffinity := fun _ => 0
  ipiReschedulePending := fun _ => false
  currentSyscallError := ⟨0, 0, 0, 0, 0, false, .noError⟩
  currentLookupFault := .invalidRoot

/-- An invocation on that machine, which no interrupt preempts. -/
def bootEnv : Env where
  pf := armVirt 1
  cfg := Mcs.qemuConfig
  preempt := fun _ => false
  fuel := 0
  effects := []
  smp := false
  currentCPUIndex := 0
  selfInQueue := fun _ => false

/-- Mint the capability in slot 4 of the root CNode, which is that to all interrupts, into slot 30. -/
def mintMessage : Message where
  length := 6
  arg := fun i => [30, 64, 4, 64, 15, 1].getD i 0
  excaprefs := fun i => if i = 0 then some (armVirtBoot.rootSlot .initThreadCNode) else none

/-- `EXCEPTION_SYSCALL_ERROR` as an answer, and the error. -/
def refusal (r : EStateM.Result Stop System Unit) : Option SyscallErrorType :=
  match r with
  | .error (.exception .syscallError) s => some s.currentSyscallError.type
  | _ => none

lemma exists_of_refusal {r : EStateM.Result Stop System Unit} {e : SyscallErrorType} (h : refusal r = some e) :
    ∃ s', r = .error (.exception .syscallError) s' ∧ s'.currentSyscallError.type = e := by
  unfold refusal at h
  split at h
  · exact ⟨_, rfl, Option.some.inj h⟩
  · cases h

/-- The slots are found, but nothing can be derived from the capability. -/
theorem refused_unchanged_mint :
    ∃ s', decodeCNodeInvocation bootEnv mintMessage .cnodeMint armVirtBoot.rootCNodeCap bootSystem =
        .error (.exception .syscallError) s' ∧ s'.currentSyscallError.type = .illegalOperation ∧
      s'.core = bootSystem.core := by
  obtain ⟨s', e, htype⟩ := exists_of_refusal (r := decodeCNodeInvocation bootEnv mintMessage .cnodeMint
    armVirtBoot.rootCNodeCap bootSystem) (e := .illegalOperation) (by decide +kernel)
  refine ⟨s', e, htype, (refused_unchanged (.cnode _) e).resolve_right ?_⟩
  rintro ⟨h, -⟩
  cases h

/-- The second core runs thread 10 on the scheduling context 11. -/
def remoteSystem : System :=
  { bootSystem with
    kernel := { bootSystem.kernel with
      tcbExists := update bootSystem.kernel.tcbExists 10 true
      tsType := update bootSystem.kernel.tsType 10 .running
      scExists := update bootSystem.kernel.scExists 11 true
      schedContext := update bootSystem.kernel.schedContext 11
        (bootSystem.kernel.schedContext bootSystem.kernel.ksCurSC)
      tcbSchedContext := update bootSystem.kernel.tcbSchedContext 10 (some 11)
      scTcb := update bootSystem.kernel.scTcb 11 (some 10) }
    nodes := update bootSystem.nodes 1 { idleNode with ksCurThread := 10, ksCurSC := 11 }
    tcbAffinity := update bootSystem.tcbAffinity 10 1 }

/-- A request without a capability to bind is refused, but the second core has been stalled. -/
theorem refused_stalls :
    ∃ s', decodeSchedContextInvocation { bootEnv with smp := true } { mintMessage with excaprefs := fun _ => none }
        .schedContextBind 11 false remoteSystem = .error (.exception .syscallError) s' ∧
      (remoteSystem.nodes 1).ksCurThread = 10 ∧ (s'.nodes 1).ksCurThread = 6 ∧
      remoteSystem.ipiReschedulePending 1 = false ∧ s'.ipiReschedulePending 1 = true :=
  ⟨_, rfl, rfl, by decide +kernel, rfl, by decide +kernel⟩

end NexsKernel.Decode
