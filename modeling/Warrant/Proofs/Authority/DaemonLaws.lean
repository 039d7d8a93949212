import Warrant.Proofs.Json.ScanLaws
import Warrant.Proofs.RenewalLaws

namespace Warrant

theorem Json.isNumber_of_record? {names : List String} {j : Json}
    (h : (j.record? names).isSome) : j.isNumber = false := by
  cases j with
  | number => contradiction
  | _ => rfl

theorem DaemonMessage.isNumber_of_ofJson? {j : Json} {m : DaemonMessage}
    (h : ofJson? j = some m) : j.isNumber = false := by
  simp only [ofJson?, Option.bind_eq_bind, Option.bind_eq_some_iff] at h
  obtain ⟨fields, read, -⟩ := h
  exact Json.isNumber_of_record? (Option.isSome_of_eq_some read)

/-- What follows a message is not overlooked, except for blanks. -/
theorem DaemonMessage.read?_append {s : Bytes} {m : DaemonMessage}
    (h : Record.ofBytes? s = some m) (more : Bytes) :
    Json.read? (s ++ more) = if more.all Json.Token.isBlank then Json.read? s else none := by
  obtain ⟨j, read, ofJson⟩ := Option.bind_eq_some_iff.1 h
  rw [read]
  exact Json.read?_append read (isNumber_of_ofJson? ofJson) more

namespace DaemonExchange

/-- Beyond what is read of the reply stand blanks at most. -/
def isPadded (reply : Bytes) : Bool :=
  (reply.drop longestReply).all Json.Token.isBlank

theorem read?_of_take {reply : Bytes} {message : DaemonMessage}
    (h : Record.ofBytes? (reply.take longestReply) = some message) :
    Json.read? reply = if isPadded reply then Json.read? (reply.take longestReply) else none := by
  have whole := DaemonMessage.read?_append h (reply.drop longestReply)
  rwa [List.take_append_drop] at whole

theorem bytes_eq_cons (m : DaemonMessage) : ∃ rest, Record.bytes m = 123 :: rest :=
  ⟨_, rfl⟩

def unreadable (read : Bytes) : String :=
  s!"{read.length} bytes are no message"

section

variable [Scheme]

theorem result_answered_eq_ok_iff {wording : Bytes → String} {reply : Bytes} {c : Credential} :
    (answered reply).result wording = .ok c ↔ ∃ message,
      Record.ofBytes? (reply.take longestReply) = some message ∧ ofMessage message = .ok c := by
  simp only [result]
  cases Record.ofBytes? (α := DaemonMessage) (reply.take longestReply) <;> simp

/-- Whatever is sent, and however long it is: what has been cut off a reply that is taken over is
blank, or else the reply as a whole is no document. -/
theorem result_beyond_limit (wording : Bytes → String) (reply : Bytes) :
    (∀ c, (answered reply).result wording = .ok c ↔ ∃ message,
      Record.ofBytes? (reply.take longestReply) = some message ∧ ofMessage message = .ok c ∧
        (isPadded reply = true ∧ Record.ofBytes? reply = some message ∨
          isPadded reply = false ∧ Json.read? reply = none)) ∧
    (Json.read? reply ≠ none → isPadded reply = false →
      (answered reply).result wording =
        .error (.encoding (wording (reply.take longestReply)))) := by
  refine ⟨fun c => ?_, fun document more => ?_⟩
  · rw [result_answered_eq_ok_iff]
    constructor
    · rintro ⟨message, read, taken⟩
      have whole := read?_of_take read
      refine ⟨message, read, taken, ?_⟩
      cases padded : isPadded reply with
      | true =>
        rw [if_pos padded] at whole
        exact .inl ⟨rfl, by rw [Record.ofBytes?, whole]; exact read⟩
      | false => exact .inr ⟨rfl, by simpa [padded] using whole⟩
    · rintro ⟨message, read, taken, -⟩
      exact ⟨message, read, taken⟩
  · simp only [result]
    cases read : Record.ofBytes? (α := DaemonMessage) (reply.take longestReply) with
    | none => rfl
    | some message =>
      rw [read?_of_take read, if_neg (by simp [more])] at document
      contradiction

end

theorem result_beyond_limit_pushed :
    let reply := List.replicate longestReply 32 ++ Record.bytes (request .bootstrap)
    Json.read? reply ≠ none ∧ isPadded reply = false ∧
      (answered reply).result unreadable =
        .error (.encoding (unreadable (reply.take longestReply))) := by
  intro reply
  have document : Json.read? reply ≠ none := by
    have read := Record.ofBytes?_bytes DaemonMessage.codec (request .bootstrap)
    rw [Json.read?_blanks_append (by simp [Json.Token.isBlank])]
    intro none
    simp [Record.ofBytes?, none] at read
  have more : isPadded reply = false := by
    obtain ⟨rest, bytes⟩ := bytes_eq_cons (request .bootstrap)
    rw [isPadded, List.drop_left' List.length_replicate, bytes]
    rfl
  exact ⟨document, more, (result_beyond_limit unreadable reply).2 document more⟩

theorem result_padded :
    let reply := Record.bytes (request .bootstrap) ++ List.replicate longestReply 32
    longestReply < reply.length ∧ (answered reply).result unreadable = .ok .bootstrap := by
  intro reply
  constructor
  · obtain ⟨rest, bytes⟩ := bytes_eq_cons (request .bootstrap)
    simp only [reply, bytes, List.length_append, List.length_cons, List.length_replicate]
    omega
  · obtain ⟨message, read, taken⟩ := result_answered_eq_ok_iff.1 (result_bootstrap unreadable)
    rw [List.take_of_length_le length_bootstrap] at read
    refine result_answered_eq_ok_iff.2 ⟨message, ?_, taken⟩
    rw [List.take_append, List.take_of_length_le length_bootstrap, List.take_replicate,
      Record.ofBytes?, DaemonMessage.read?_append read, if_pos (by simp [Json.Token.isBlank])]
    exact read

end DaemonExchange

end Warrant
