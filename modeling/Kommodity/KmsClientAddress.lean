import Kommodity.GoNet
import Kommodity.SecretStorage

/-! How the KMS resolves the address of a caller: proxy headers in a fixed order, then the
peer of the connection. Whatever the source, the result is the printed form of an address. -/
namespace Kommodity.Kms

open Go Go.Net

inductive Code where
  | invalidArgument
  | permissionDenied
  deriving DecidableEq, Repr

/-- Errors of the KMS. `wrap` is `fmt.Errorf` with a leading text and `%w`; `ipMismatch` is
the permission-denied status that names the stored and the requesting address. -/
inductive Error where
  | cipherTooShort
  | noMatchingSecret (secretName : String)
  | noVolumeKeySets (secretName : String)
  | noValidClientIP
  | ipMismatch (sealedFrom : Bytes) (requestedFrom : String)
  | status (code : Code) (message : String)
  | api (cause : Secrets.APIError)
  | library (message : String)
  | wrap (context : String) (cause : Error)
  deriving DecidableEq, Repr

/-- The incoming gRPC context: request metadata by lower-case key, and the peer address. -/
structure Context where
  metadata : Option (Map String (List String))
  peer : Option String

def headerXForwardedFor : String := "x-forwarded-for"
def headerXRealIP : String := "x-real-ip"
def headerXEnvoyExternalAddr : String := "x-envoy-external-address"

/-- A valid address with or without port in its printed form, or the empty string. -/
def sanitizeIP (raw : String) : String :=
  if raw = "" then ""
  else match parseIP raw with
    | some ip => ipString ip
    | none =>
      match splitHostPort raw with
      | none => ""
      | some (host,_) =>
        match parseIP host with
        | some ip => ipString ip
        | none => ""

/-- The loop over the entries of the forwarded-for list. -/
def leftmostIP : List String → Option String
  | [] => none
  | raw :: rest =>
    let ip := sanitizeIP (trimSpace raw)
    if ip ≠ "" then some ip else leftmostIP rest

def ipFromXForwardedFor (md : Map String (List String)) : Option String :=
  let values := md.index headerXForwardedFor
  if values = [] then none else leftmostIP (split (join values ",") ',')

def ipFromHeader (md : Map String (List String)) (header : String) : Option String :=
  match md.index header with
  | [] => none
  | value :: _ =>
    let ip := sanitizeIP (trimSpace value)
    if ip ≠ "" then some ip else none

def ipFromPeer (ctx : Context) : Option String :=
  match ctx.peer with
  | none => none
  | some address =>
    let ip := sanitizeIP address
    if ip ≠ "" then some ip else none

def ipFromMetadata (md : Map String (List String)) : Option String :=
  (ipFromXForwardedFor md).or
    ((ipFromHeader md headerXRealIP).or (ipFromHeader md headerXEnvoyExternalAddr))

def extractClientIP (ctx : Context) : Except Error String :=
  match (ctx.metadata.bind ipFromMetadata).or (ipFromPeer ctx) with
  | some ip => .ok ip
  | none => .error .noValidClientIP

/-- The text of some address. -/
def IsAddress (ip : String) : Prop := ∃ address : IP, ip = ipString address

theorem sanitizeIP_address (raw : String) (found : sanitizeIP raw ≠ "") :
    IsAddress (sanitizeIP raw) := by
  unfold sanitizeIP at found ⊢
  by_cases empty : raw = ""
  · simp [empty] at found
  · rw [if_neg empty] at found ⊢
    cases plain : parseIP raw with
    | some ip => exact ⟨ip,rfl⟩
    | none =>
      rw [plain] at found
      cases parts : splitHostPort raw with
      | none => simp [parts] at found
      | some part =>
        cases host : parseIP part.1 with
        | some ip => exact ⟨ip,by simp [host]⟩
        | none => simp [parts,host] at found

theorem sanitized_address (found : (if sanitizeIP raw ≠ "" then some (sanitizeIP raw) else none) = some ip) :
    IsAddress ip := by
  split at found
  · next some_ =>
    obtain rfl := Option.some.inj found
    exact sanitizeIP_address _ some_
  · cases found

theorem leftmostIP_address (entries : List String) (found : leftmostIP entries = some ip) :
    IsAddress ip := by
  induction entries with
  | nil => simp [leftmostIP] at found
  | cons raw rest ih =>
    simp only [leftmostIP] at found
    split at found
    · next some_ =>
      obtain rfl := Option.some.inj found
      exact sanitizeIP_address _ some_
    · exact ih found

theorem ipFromHeader_address (found : ipFromHeader md header = some ip) : IsAddress ip := by
  unfold ipFromHeader at found
  split at found
  · cases found
  · exact sanitized_address found

theorem ipFromPeer_address (found : ipFromPeer ctx = some ip) : IsAddress ip := by
  unfold ipFromPeer at found
  split at found
  · cases found
  · exact sanitized_address found

theorem ipFromXForwardedFor_address (found : ipFromXForwardedFor md = some ip) :
    IsAddress ip := by
  simp only [ipFromXForwardedFor] at found
  split at found
  · simp at found
  · exact leftmostIP_address _ found

theorem extractClientIP_address (done : extractClientIP ctx = .ok ip) : IsAddress ip := by
  unfold extractClientIP at done
  split at done
  · next found =>
    cases done
    rcases Option.or_eq_some_iff.mp found with fromMetadata | ⟨_,fromPeer⟩
    · obtain ⟨md,_,inside⟩ := Option.bind_eq_some_iff.mp fromMetadata
      rcases Option.or_eq_some_iff.mp inside with forwarded | ⟨_,headers⟩
      · exact ipFromXForwardedFor_address forwarded
      · rcases Option.or_eq_some_iff.mp headers with real | ⟨_,envoy⟩
        · exact ipFromHeader_address real
        · exact ipFromHeader_address envoy
    · exact ipFromPeer_address fromPeer
  · simp at done

end Kommodity.Kms
