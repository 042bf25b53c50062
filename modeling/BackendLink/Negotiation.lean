import BackendLink.ConnectError
import BackendLink.Log
import BackendLink.Transport.Send
import BackendLink.Wire.Message

/-!
# SSL negotiation

On a fresh stream the SSL request is sent before anything else, and one read takes the reply. Only
its first byte counts: `sslAllowed` hands the stream back for the upgrade, anything else, no byte
included, shuts the stream down.
-/

namespace BackendLink
open Wire

/-- The most that the read of the reply asks for. -/
def replyLimit : Nat := 4096

inductive SslOutcome
  /-- The backend accepted; the stream is handed back. -/
  | allowed (stream : Transport)
  /-- The backend declined; the stream is gone. -/
  | rejected

namespace SslOutcome

def isAllowed : SslOutcome → Bool
  | allowed _ => true
  | rejected => false

end SslOutcome

/-- A negotiation that is over. -/
structure Negotiation where
  outcome : Except ConnectError SslOutcome
  /-- The stream as the negotiation left it, whoever owns it now. -/
  stream : Transport
  log : List Log.Line

namespace Negotiation

def target : String := "pgrelay_client::negotiate"

/-- The first byte of a reply, as the log names it. -/
def shownReply : Option UInt8 → String
  | none => "None"
  | some b => "Some(" ++ toString b.toNat ++ ")"

end Negotiation

def negotiate (stream : Transport) : Negotiation :=
  let debug (text : String) : Log.Line := ⟨.debug, Negotiation.target, text⟩
  let error (text : String) : Log.Line := ⟨.error, Negotiation.target, text⟩
  let sending := debug
    ("Sending SSL request to backend (" ++ toString sslRequest.length ++ " bytes)")
  match send sslRequest stream with
  | (.error e, after) =>
    ⟨.error (.ofFrame e), after,
      [sending, error ("Error sending SSL request to backend: " ++ e.message)]⟩
  | (.ok _, after) =>
    match after.read replyLimit with
    | (.error e, last) =>
      ⟨.error (.connection e), last,
        [sending, error ("Error receiving SSL response from backend: " ++ e.text)]⟩
    | (.ok reply, last) =>
      if reply.head? = some sslAllowed then
        ⟨.ok (.allowed last), last, [sending, debug "SSL connections are allowed by the backend"]⟩
      else
        let declined := error
          ("The backend does not allow SSL connections response=" ++ Negotiation.shownReply reply.head?)
        match last.shutdown with
        | (.ok (), gone) => ⟨.ok .rejected, gone, [sending, declined]⟩
        | (.error e, gone) =>
          ⟨.ok .rejected, gone,
            [sending, declined, debug ("Shutdown after SSL rejection failed: " ++ e.text)]⟩

end BackendLink
