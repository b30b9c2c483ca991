import Iec104South.SessionFreshness

/-!
# Replies and the request they answer

North operations send interrogation commands for any CA over the connection on which the
plugin runs its own GI, so replies to two requests can arrive in any order. The pending request
of the plugin's GI is kept beside the state (`notePending`), and `replies_attributed_iff` says
when a reply acts on the GI only if it carries the CA of that request: the code does not compare
the addresses, and fails a running GI with no request pending too, so exactly in the runs in
which no other reply arrives where it would act.
-/

namespace Iec104South

open Reactive

/-- The CA of an interrogation command the library accepted. -/
def Effect.requestedCa? : Effect → Option Int
  | .sendInterrogationCommand _ ca true => some ca
  | _ => none

/-- The CA of the last request of the plugin's own GI: what the periodic tasks passed to the
library and the library accepted. -/
def noteRequest (requested : Option Int) (_ : Plugin) (i : Input) (out : List Effect) :
    Option Int :=
  match i with
  | .conThread _ => (out.findSome? Effect.requestedCa?).or requested
  | _ => requested

/-- The CA of the pending request of the plugin's own GI: the last one that the library accepted,
until the request state returns to 0. -/
def notePending (cfg : IEC104ClientConfig) (pending : Option Int) (p : Plugin) (i : Input)
    (out : List Effect) : Option Int :=
  if (step cfg p i).1.con.interrogationRequestState = .idle then none
  else noteRequest pending p i out

/-- The ASDU is a reply to an interrogation command. -/
def isInterrogationReply (a : ASDU) : Bool :=
  a.typeId == C_IC_NA_1 && a.cot != CS101_COT_INTERROGATED_BY_STATION

/-- The reply answers the pending request: it carries its CA, or the request was a broadcast. No
reply answers where no request is pending. -/
def Answers (cfg : IEC104ClientConfig) (pending : Option Int) (a : ASDU) : Prop :=
  pending = some a.ca ∨ pending = some cfg.broadcastCA

instance (cfg : IEC104ClientConfig) (pending : Option Int) (a : ASDU) :
    Decidable (Answers cfg pending a) :=
  inferInstanceAs (Decidable (_ ∨ _))

/-- The step changed the request state or the GI status. -/
def changesGi (cfg : IEC104ClientConfig) (p : Plugin) (i : Input) : Bool :=
  (step cfg p i).1.con.interrogationRequestState != p.con.interrogationRequestState ||
    (step cfg p i).1.client.giStatus != p.client.giStatus

/-- A reply changes the GI only if it answers the pending request. -/
def RepliesAttributed (cfg : IEC104ClientConfig) (s : Plugin × Option Int) : Input → Prop
  | .asdu a now =>
    isInterrogationReply a → changesGi cfg s.1 (.asdu a now) → Answers cfg s.2 a
  | _ => True

/-- A reply that is neither ACT_CON nor ACT_TERM. -/
def isGiRejection (a : ASDU) : Bool :=
  isGiReply a && isInterrogationReply a && a.cot != CS101_COT_ACTIVATION_CON &&
    a.cot != CS101_COT_ACTIVATION_TERMINATION

/-- The connection is in the state in which it acts on the reply: an ACT_CON while ACT_CON is
awaited, an ACT_TERM while ACT_TERM is awaited, any other reply while the GI is running. -/
def Plugin.actsOn (a : ASDU) (p : Plugin) : Bool :=
  isGiReply a &&
    if a.cot = CS101_COT_ACTIVATION_CON then p.con.interrogationRequestState == .waitActCon
    else if a.cot = CS101_COT_ACTIVATION_TERMINATION then
      p.con.interrogationRequestState == .waitActTerm
    else p.giRunning

/-- The ACT_CON or ACT_TERM that arrives while it is waited for, and any rejection that arrives
while a GI is running, answers the pending request. -/
def NoForeignReply (cfg : IEC104ClientConfig) (s : Plugin × Option Int) : Input → Prop
  | .asdu a _ =>
    (s.1.repliesToPending a → Answers cfg s.2 a) ∧
      (isGiRejection a → s.1.giRunning → Answers cfg s.2 a)
  | _ => True

instance (cfg : IEC104ClientConfig) (s : Plugin × Option Int) :
    ∀ i, Decidable (RepliesAttributed cfg s i) := by
  unfold RepliesAttributed
  exact Input.decidable

variable {cfg : IEC104ClientConfig} {p : Plugin} {a : ASDU}

theorem receivedGiStatus_of_isInterrogationReply (h : isInterrogationReply a) (s : GiStatus) :
    receivedGiStatus a s = s := by
  have hcot : isInterrogationResponse a = false := by
    simp only [isInterrogationReply, Bool.and_eq_true, bne_iff_ne] at h
    simpa [isInterrogationResponse] using h.2
  simp [receivedGiStatus, hcot]

/-- The connection acts on the ACT_CON or the ACT_TERM that is waited for, and on a rejection while
the GI is running. -/
theorem actsOn_iff (h : isInterrogationReply a) :
    p.actsOn a ↔ p.repliesToPending a ∨ (isGiRejection a ∧ p.giRunning) := by
  simp only [Plugin.actsOn, Plugin.repliesToPending, isGiRejection, h, Bool.and_eq_true]
  split_ifs with hcon hterm
  · simp [hcon, CS101_COT_ACTIVATION_CON, CS101_COT_ACTIVATION_TERMINATION]
  · simp [hterm, CS101_COT_ACTIVATION_CON, CS101_COT_ACTIVATION_TERMINATION]
  · simp [bne, beq_false_of_ne hcon, beq_false_of_ne hterm]

/-- No other ASDU is an ACT_CON or an ACT_TERM, or a rejection. -/
theorem isInterrogationReply_of_acts
    (h : p.repliesToPending a ∨ (isGiRejection a ∧ p.giRunning)) : isInterrogationReply a := by
  rcases h with h | ⟨h, -⟩
  · simp only [Plugin.repliesToPending, isGiReply, Bool.and_eq_true, Bool.or_eq_true,
      beq_iff_eq] at h
    obtain ⟨⟨htype, -⟩, ⟨hcot, -⟩ | ⟨hcot, -⟩⟩ := h <;>
      simp [isInterrogationReply, htype, hcot]
  · simp only [isGiRejection, Bool.and_eq_true] at h
    exact h.1.1.2

/-- The connection acts on a reply exactly when the reply changes the GI. -/
theorem changesGi_iff_actsOn (now : Nat) (h : isInterrogationReply a) :
    changesGi cfg p (.asdu a now) ↔ p.actsOn a := by
  have hstatus := receivedGiStatus_of_isInterrogationReply h p.client.giStatus
  cases hreply : isGiReply a with
  | false =>
    obtain ⟨con', heq, hcon⟩ := Plugin.asduReceivedHandler_requestState cfg p.clear now hreply
    have hstate : con'.interrogationRequestState = p.con.interrogationRequestState := hcon
    simp [changesGi, step, Plugin.handle, heq, hstate, hstatus, Plugin.actsOn, hreply]
  | true =>
    have hrunning : (p.clear.received cfg now a).giRunning = p.giRunning :=
      Plugin.received_giRunning cfg p.clear now a
    have hpending : (p.clear.received cfg now a).con.interrogationRequestState =
        p.con.interrogationRequestState := by
      simp [Plugin.received_con]
    simp only [changesGi, step, Plugin.handle,
      Plugin.asduReceivedHandler_giReply cfg p.clear now hreply, Plugin.giReply, Plugin.actsOn,
      hreply, Bool.true_and]
    split_ifs with hcon hterm
    · simp only [Plugin.giConfirmed, hpending]
      split_ifs with hstate hneg
      · simp [hstate]
      · simp [hstate]
      · simp [hstate, hpending, hstatus]
    · simp only [Plugin.giTerminated, hpending]
      split_ifs with hstate hrun
      · simp [hstate]
      · simp [hstate]
      · simp [hstate, hpending, hstatus]
    · simp only [Plugin.giRejected, hrunning]
      split_ifs with hrun
      · have hnotFailed : p.client.giStatus ≠ .failed := by
          intro hfailed
          simp [Plugin.giRunning, hfailed] at hrun
        simp [hrun, Ne.symm hnotFailed]
      · simp [hrun, hpending, hstatus]

/-! ## The pending request -/

theorem exists_requestedCa_of_sentRequest {out : List Effect} (h : sentRequest out) :
    (out.findSome? Effect.requestedCa?).isSome := by
  obtain ⟨e, he, hsent⟩ := List.any_eq_true.mp h
  refine List.findSome?_isSome_iff.mpr ⟨e, he, ?_⟩
  cases e with
  | sendInterrogationCommand handle ca accepted =>
    obtain rfl : accepted = true := hsent
    rfl
  | _ => cases hsent

/-- A round that leaves a request pending has sent it, or it was pending before. -/
theorem conThread_pending (cfg : IEC104ClientConfig) (env : Env) (p : Plugin)
    (h : (p.clear.conThread cfg env).con.interrogationRequestState ≠ .idle) :
    sentRequest (p.clear.conThread cfg env).client.out ∨
      p.con.interrogationRequestState ≠ .idle := by
  rcases Plugin.conThread_cases cfg env p.clear with ⟨-, hview, -⟩ | ⟨-, hview, heq⟩
  · exact .inr ((Plugin.giView_eq_iff.mp hview).2.2.1 ▸ h)
  · rw [heq] at h ⊢
    have hstate := (Plugin.giView_eq_iff.mp hview).2.2.1
    exact Plugin.giTasks_pending cfg env _ (fun hpending => .inr (hstate ▸ hpending)) h

/-- One step: a request is noted as pending while the connection waits for a reply to it. -/
theorem notePending_isSome {pending : Option Int}
    (h : pending.isSome ↔ p.con.interrogationRequestState ≠ .idle) (i : Input) :
    (notePending cfg pending p i (step cfg p i).2).isSome ↔
      (step cfg p i).1.con.interrogationRequestState ≠ .idle := by
  unfold notePending
  split_ifs with hidle
  · exact iff_of_false (by simp) (not_not.mpr hidle)
  refine iff_of_true ?_ hidle
  by_cases hround : ∃ env, i = .conThread env
  · obtain ⟨env, rfl⟩ := hround
    show ((p.clear.conThread cfg env).client.out.findSome? Effect.requestedCa? |>.or
      pending).isSome
    rw [Option.isSome_or, Bool.or_eq_true]
    exact (conThread_pending cfg env p hidle).imp exists_requestedCa_of_sentRequest h.mpr
  · have hno : ∀ env, i ≠ .conThread env := fun env h => hround ⟨env, h⟩
    have hbefore : p.con.interrogationRequestState ≠ .idle := by
      cases htouch : i.touchesGi with
      | false =>
        have hview := Plugin.handle_giView cfg p.clear htouch
        exact (Plugin.giView_eq_iff.mp hview).2.2.1 ▸ hidle
      | true =>
        cases i with
        | connectionEvent event now => cases event <;> exact hidle
        | asdu a now => exact (Plugin.asduReceivedHandler_con cfg p.clear now a).1 hidle
        | conThread env => exact absurd rfl (hno env)
        | _ => cases htouch
    cases i with
    | conThread env => exact absurd rfl (hno env)
    | _ => exact h.mpr hbefore

end Iec104South
