import Kommodity.AttestationNonces
import Kommodity.Machines
import Kommodity.TokenBucket

/-! The nonce endpoint with its rate limit. The limiter has a bucket for each address text of a
request, port included, while the store binds a nonce to the canonical address. A client that opens
a new connection has a new bucket. -/
namespace Kommodity.Attestation.NonceIssuance

open Go Go.Net Net Transition TokenBucket

/-- In nanoseconds, as times are here. -/
def rateLimitInterval : Int := 30 * 1000000000
def rateLimitRequests : Nat := 1

structure RateLimiter where
  clients : Map String Bucket

def newRateLimiter : RateLimiter := ⟨∅⟩

/-- The limiter of a client, which is new if there was none. -/
def getClientLimiter (r : RateLimiter) (ip : String) : Bucket × RateLimiter :=
  match r.clients.lookup ip with
  | some client => (client,r)
  | none =>
    let limiter := Bucket.full rateLimitInterval rateLimitRequests
    (limiter,⟨r.clients.insert ip limiter⟩)

/-- `getClientLimiter` and `Allow`; the limiter is shared by reference. -/
def allow (r : RateLimiter) (ip : String) (now : Int) : Bool × RateLimiter :=
  let (limiter,r) := getClientLimiter r ip
  let (granted,limiter) := limiter.allow rateLimitInterval rateLimitRequests now
  (granted,⟨r.clients.insert ip limiter⟩)

structure NonceResponse where
  nonce : String
  expiresAt : Int

structure Service where
  rateLimiter : RateLimiter
  nonceStore : NonceStore

/-- A request with its time and what it gets from `crypto/rand`. -/
structure Request where
  http : HTTPRequest
  now : Int
  random : Except String Reservation

/-- `GetNonce`; `encode` is the JSON encoder. -/
def getNonce (encode : NonceResponse → Except String String) (s : Service) (req : Request) :
    HTTPResponse × Service :=
  match getOriginalIPFromRequest req.http with
  | .error _ => (httpError ipRequiredMessage 400,s)
  | .ok ip =>
    if req.http.method ≠ "GET" then (httpError "Method not allowed" 405,s)
    else
      let (granted,rateLimiter) := allow s.rateLimiter ip req.now
      if ¬ granted then (httpError "Rate limit exceeded" 429,{ s with rateLimiter })
      else
        match req.random with
        | .error _ => (httpError "Failed to generate nonce" 500,{ s with rateLimiter })
        | .ok reservation =>
          match s.nonceStore.generate ip reservation req.now with
          | .error _ => (httpError "Failed to generate nonce" 500,{ s with rateLimiter })
          | .ok ((nonce,expiresAt),nonceStore) =>
            match encode ⟨nonce,expiresAt⟩ with
            | .error _ => (httpError "Failed to encode response" 500,⟨rateLimiter,nonceStore⟩)
            | .ok json => (⟨200,json⟩,⟨rateLimiter,nonceStore⟩)

/-- The address text of a request, and the address of the client. -/
def Request.address (req : Request) : Option String := (getOriginalIPFromRequest req.http).toOption

def Request.client (req : Request) : Option String := req.address.bind fun ip => (canonicalIP ip).toOption

/-- The bucket that a request with this address meets. -/
def limiterOf (r : RateLimiter) (ip : String) : Bucket :=
  (r.clients.lookup ip).getD (.full rateLimitInterval rateLimitRequests)

theorem allow_fst (r : RateLimiter) (ip : String) (now : Int) :
    (allow r ip now).1 = ((limiterOf r ip).allow rateLimitInterval rateLimitRequests now).1 := by
  unfold allow getClientLimiter limiterOf
  cases r.clients.lookup ip <;> rfl

theorem limiterOf_allow (r : RateLimiter) (ip : String) (now : Int) (k : String) :
    limiterOf (allow r ip now).2 k =
      if k = ip then ((limiterOf r ip).allow rateLimitInterval rateLimitRequests now).2 else limiterOf r k := by
  unfold allow getClientLimiter limiterOf
  by_cases same : k = ip
  · subst same
    cases r.clients.lookup k <;> simp
  · cases r.clients.lookup ip <;> simp [same]

theorem generate_ok {store : NonceStore}
    (done : store.generate ip reservation now = .ok ((nonce,exp),next)) :
    (∃ canonical, canonicalIP ip = .ok canonical) ∧ next.ttl = store.ttl := by
  unfold NonceStore.generate at done
  split at done
  · simp at done
  · cases done
    exact ⟨⟨_,‹_›⟩,rfl⟩

/-- A request that is not a GET from somewhere is turned away. Any other takes a token for its
address; if it gets a nonce there was one. -/
theorem getNonce_cases (encode : NonceResponse → Except String String) (s : Service) (req : Request) :
    (getNonce encode s req).2.nonceStore.ttl = s.nonceStore.ttl ∧
    (((req.address = none ∨ req.http.method ≠ "GET") ∧ (getNonce encode s req).1.status ≠ 200 ∧
        (getNonce encode s req).2.rateLimiter = s.rateLimiter) ∨
      ∃ ip, req.address = some ip ∧ req.http.method = "GET" ∧
        (getNonce encode s req).2.rateLimiter = (allow s.rateLimiter ip req.now).2 ∧
        ((getNonce encode s req).1.status = 200 → (allow s.rateLimiter ip req.now).1 = true ∧
          ∃ canonical, canonicalIP ip = .ok canonical)) := by
  unfold getNonce Request.address
  cases source : getOriginalIPFromRequest req.http with
  | error cause => exact ⟨rfl,.inl ⟨.inl rfl,by simp [httpError],rfl⟩⟩
  | ok ip =>
    dsimp only
    split
    · next other => exact ⟨rfl,.inl ⟨.inr other,by simp [httpError],rfl⟩⟩
    · next get =>
      have get := not_not.mp get
      split
      · exact ⟨rfl,.inr ⟨ip,rfl,get,rfl,by simp [httpError]⟩⟩
      · next granted =>
        split
        · exact ⟨rfl,.inr ⟨ip,rfl,get,rfl,by simp [httpError]⟩⟩
        · split
          · exact ⟨rfl,.inr ⟨ip,rfl,get,rfl,by simp [httpError]⟩⟩
          · next generated =>
            obtain ⟨parsed,ttl⟩ := generate_ok generated
            split
            · exact ⟨ttl,.inr ⟨ip,rfl,get,rfl,by simp [httpError]⟩⟩
            · exact ⟨ttl,.inr ⟨ip,rfl,get,rfl,fun _ => ⟨by simpa using granted,parsed⟩⟩⟩

/-- A nonce that was returned: to which address, under which text of it, and when. -/
structure Issue where
  client : String
  address : String
  time : Int
  deriving DecidableEq

structure State where
  clock : Int
  service : Service
  issued : List Issue

def issueOf (req : Request) (status : Nat) : List Issue :=
  if status = 200 then
    match req.address,req.client with
    | some address,some client => [⟨client,address,req.now⟩]
    | _,_ => []
  else []

/-- Requests one after the other, in time. -/
def requests (encode : NonceResponse → Except String String) : System State Request where
  allowed s req := s.clock ≤ req.now
  apply s req :=
    let (response,service) := getNonce encode s.service req
    ⟨req.now,service,issueOf req response.status ++ s.issued⟩

/-- The address text is the one under which the client got its last nonce, or an interval has passed
since then. -/
def SameAddress (s : State) (req : Request) : Prop :=
  ∀ client ∈ req.client, ∀ e ∈ s.issued.find? (·.client = client),
    req.address = some e.address ∨ e.time + rateLimitInterval ≤ req.now

instance (encode : NonceResponse → Except String String) (s : State) (req : Request) :
    Decidable ((requests encode).allowed s req) := inferInstanceAs (Decidable (s.clock ≤ req.now))

instance (s : State) (req : Request) : Decidable (SameAddress s req) :=
  inferInstanceAs (Decidable (∀ client ∈ req.client, ∀ e ∈ s.issued.find? (·.client = client),
    req.address = some e.address ∨ e.time + rateLimitInterval ≤ req.now))

/-- Nonces of one address are an interval apart. The list has the last one first. -/
def Spaced (issued : List Issue) : Prop :=
  issued.Pairwise fun later earlier => later.client = earlier.client →
    earlier.time + rateLimitInterval ≤ later.time

instance (issued : List Issue) : Decidable (Spaced issued) :=
  inferInstanceAs (Decidable (issued.Pairwise fun later earlier => later.client = earlier.client →
    earlier.time + rateLimitInterval ≤ later.time))

/-- Every nonce has emptied the bucket of its address. -/
structure Inv (s : State) : Prop where
  emptied : ∀ e ∈ s.issued, (limiterOf s.service.rateLimiter e.address).credit ≤ 0 ∧
    e.time ≤ (limiterOf s.service.rateLimiter e.address).last
  past : ∀ e ∈ s.issued, (limiterOf s.service.rateLimiter e.address).last ≤ s.clock
  spaced : Spaced s.issued

theorem emptied_allow {r : RateLimiter} {e : Issue} (emptied : (limiterOf r e.address).credit ≤ 0)
    (time : e.time ≤ (limiterOf r e.address).last) (past : (limiterOf r e.address).last ≤ clock)
    (later : clock ≤ now) (ip : String) :
    ((limiterOf (allow r ip now).2 e.address).credit ≤ 0 ∧
      e.time ≤ (limiterOf (allow r ip now).2 e.address).last) ∧
    (limiterOf (allow r ip now).2 e.address).last ≤ now := by
  rw [limiterOf_allow]
  split
  · next here =>
    subst here
    cases granted : ((limiterOf r e.address).allow rateLimitInterval rateLimitRequests now).1 with
    | false =>
      rw [allow_refused granted]
      exact ⟨⟨emptied,time⟩,by omega⟩
    | true =>
      obtain ⟨credit,last⟩ := allow_drains granted
      rw [show rateLimitRequests = 1 from rfl,last]
      exact ⟨⟨credit,by omega⟩,le_rfl⟩
  · exact ⟨⟨emptied,time⟩,by omega⟩

theorem Spaced.find (spaced : Spaced issued) (last : issued.find? (·.client = client) = some first)
    (member : e ∈ issued) (same : e.client = client) : e.time ≤ first.time := by
  induction issued with
  | nil => simp at member
  | cons head rest ih =>
    obtain ⟨apart,spaced⟩ := List.pairwise_cons.mp spaced
    by_cases here : head.client = client
    · obtain rfl : head = first := by simpa [here] using last
      rcases List.mem_cons.mp member with rfl | earlier
      · exact le_rfl
      · have := apart e earlier (here.trans same.symm)
        unfold rateLimitInterval at this
        omega
    · rcases List.mem_cons.mp member with rfl | earlier
      · exact absurd same here
      · exact ih spaced (by simpa [here] using last) earlier

/-- A token for an address that meets the condition is an interval after every nonce of the client. -/
theorem Inv.apart (inv : Inv s) (later : s.clock ≤ req.now) (condition : SameAddress s req)
    (address : req.address = some ip) (client : req.client = some c)
    (granted : (allow s.service.rateLimiter ip req.now).1 = true) (member : e ∈ s.issued)
    (same : e.client = c) : e.time + rateLimitInterval ≤ req.now := by
  cases last : s.issued.find? (·.client = c) with
  | none => exact absurd same (by simpa using List.find?_eq_none.mp last e member)
  | some first =>
    have order := inv.spaced.find last member same
    have waited : first.time + rateLimitInterval ≤ req.now := by
      rcases condition c client first last with text | waited
      · obtain rfl := Option.some.inj (address.symm.trans text)
        have stored := List.mem_of_find?_eq_some last
        obtain ⟨credit,time⟩ := inv.emptied first stored
        rw [allow_fst] at granted
        have := allow_waits credit ((inv.past first stored).trans later) granted
        omega
      · exact waited
    omega

theorem Inv.step (inv : Inv s) (later : s.clock ≤ req.now) (condition : SameAddress s req) :
    Inv ((requests encode).apply s req) := by
  obtain ⟨_,⟨_,refused,same⟩ | ⟨ip,address,_,taken,issue⟩⟩ := getNonce_cases encode s.service req
  · simp only [requests,issueOf,if_neg refused,List.nil_append]
    refine ⟨?_,?_,inv.spaced⟩
    · rw [same]
      exact inv.emptied
    · rw [same]
      exact fun e member => (inv.past e member).trans later
  · have old (e : Issue) (member : e ∈ s.issued) := emptied_allow (inv.emptied e member).1
      (inv.emptied e member).2 (inv.past e member) later ip
    by_cases issued : (getNonce encode s.service req).1.status = 200
    · obtain ⟨granted,canonical,parsed⟩ := issue issued
      have client : req.client = some canonical := by simp [Request.client,address,parsed,Except.toOption]
      have new : ((limiterOf (allow s.service.rateLimiter ip req.now).2 ip).credit ≤ 0 ∧
          req.now ≤ (limiterOf (allow s.service.rateLimiter ip req.now).2 ip).last) ∧
          (limiterOf (allow s.service.rateLimiter ip req.now).2 ip).last ≤ req.now := by
        obtain ⟨credit,last⟩ := allow_drains ((allow_fst ..).symm.trans granted)
        rw [limiterOf_allow,if_pos rfl]
        exact ⟨⟨credit,last.ge⟩,last.le⟩
      simp only [requests,issueOf,if_pos issued,address,client,List.cons_append,List.nil_append]
      constructor
      · simp only [taken,List.forall_mem_cons]
        exact ⟨new.1,fun e member => (old e member).1⟩
      · simp only [taken,List.forall_mem_cons]
        exact ⟨new.2,fun e member => (old e member).2⟩
      · exact List.pairwise_cons.mpr ⟨fun e member same =>
          inv.apart later condition address client granted member same.symm,inv.spaced⟩
    · simp only [requests,issueOf,if_neg issued,List.nil_append]
      refine ⟨?_,?_,inv.spaced⟩
      · rw [taken]
        exact fun e member => (old e member).1
      · rw [taken]
        exact fun e member => (old e member).2

/-- The answers to the requests, in their order. -/
def answers (encode : NonceResponse → Except String String) (s : Service) :
    List Request → List (Request × HTTPResponse)
  | [] => []
  | req :: rest => (req,(getNonce encode s req).1) :: answers encode (getNonce encode s req).2 rest

/-- The two services are the same for a client. -/
structure Agree (c : String) (s t : Service) : Prop where
  limiters : ∀ ip, canonicalIP ip = .ok c → limiterOf s.rateLimiter ip = limiterOf t.rateLimiter ip
  ttl : s.nonceStore.ttl = t.nonceStore.ttl

theorem Request.client_eq {req : Request} (client : req.client = some c) :
    ∃ ip, req.address = some ip ∧ canonicalIP ip = .ok c := by
  obtain ⟨ip,address,parsed⟩ := Option.bind_eq_some_iff.mp client
  refine ⟨ip,address,?_⟩
  cases result : canonicalIP ip with
  | error cause => simp [result,Except.toOption] at parsed
  | ok canonical => simpa [result,Except.toOption] using parsed

theorem limiterOf_getNonce {s : Service} (other : req.address ≠ some ip) :
    limiterOf (getNonce encode s req).2.rateLimiter ip = limiterOf s.rateLimiter ip := by
  obtain ⟨_,⟨_,_,same⟩ | ⟨ip',address,_,taken,_⟩⟩ := getNonce_cases encode s req
  · rw [same]
  · rw [taken,limiterOf_allow,if_neg fun here => other (by rw [here,address])]

theorem Agree.others (agree : Agree c s t) (other : req.client ≠ some c) :
    Agree c (getNonce encode s req).2 t where
  limiters ip parsed := by
    have elsewhere : req.address ≠ some ip := by
      intro address
      refine other ?_
      rw [Request.client,address,Option.bind_some,parsed]
      rfl
    rw [limiterOf_getNonce elsewhere]
    exact agree.limiters ip parsed
  ttl := (getNonce_cases encode s req).1.trans agree.ttl

theorem Agree.response (agree : Agree c s t) (client : req.client = some c) :
    (getNonce encode s req).1 = (getNonce encode t req).1 := by
  obtain ⟨ip,address,parsed⟩ := req.client_eq client
  have granted : (allow s.rateLimiter ip req.now).1 = (allow t.rateLimiter ip req.now).1 := by
    rw [allow_fst,allow_fst,agree.limiters ip parsed]
  have source : getOriginalIPFromRequest req.http = .ok ip := by
    cases read : getOriginalIPFromRequest req.http <;> simp_all [Request.address,Except.toOption]
  unfold getNonce NonceStore.generate
  rw [source]
  dsimp only
  rw [granted,parsed,agree.ttl]
  split
  · rfl
  · split
    · rfl
    · cases req.random with
      | error cause => rfl
      | ok reservation =>
        dsimp only
        split <;> rfl

theorem Agree.step (agree : Agree c s t) :
    Agree c (getNonce encode s req).2 (getNonce encode t req).2 where
  limiters ip parsed := by
    have same := agree.limiters ip parsed
    obtain ⟨_,⟨turned,_,left⟩ | ⟨ip₁,address₁,get₁,left,_⟩⟩ := getNonce_cases encode s req <;>
      obtain ⟨_,⟨turned',_,right⟩ | ⟨ip₂,address₂,get₂,right,_⟩⟩ := getNonce_cases encode t req
    · rw [left,right]
      exact same
    · rcases turned with missing | other
      · rw [address₂] at missing; cases missing
      · exact absurd get₂ other
    · rcases turned' with missing | other
      · rw [address₁] at missing; cases missing
      · exact absurd get₁ other
    · cases address₁.symm.trans address₂
      rw [left,right,limiterOf_allow,limiterOf_allow,same]
      split
      · next here => rw [← here,same]
      · rfl
  ttl := by rw [(getNonce_cases encode s req).1,(getNonce_cases encode t req).1,agree.ttl]

/-- The answers to one client are those it gets alone. -/
theorem Agree.answers (agree : Agree c s t) (reqs : List Request) :
    (answers encode s reqs).filter (·.1.client = some c) =
      answers encode t (reqs.filter (·.client = some c)) := by
  induction reqs generalizing s t with
  | nil => rfl
  | cons req rest ih =>
    by_cases client : req.client = some c
    · simp only [NonceIssuance.answers,client,decide_true,List.filter_cons_of_pos,agree.response client,
        ih agree.step]
    · simp only [NonceIssuance.answers,client,decide_false,Bool.false_eq_true,not_false_eq_true,
        List.filter_cons_of_neg,ih (agree.others client)]

/-- An endpoint that nobody has asked yet. -/
def start (clock ttl : Int) : State := ⟨clock,⟨newRateLimiter,.newNonceStore ttl⟩,[]⟩

theorem start_inv (clock ttl : Int) : Inv (start clock ttl) :=
  ⟨by simp [start],by simp [start],.nil⟩

/-- If clients keep to one address text, or wait before they use another, the nonces of an address
are an interval apart. What a client is answered never depends on other addresses. -/
theorem nonce_issuance_limited (encode : NonceResponse → Except String String)
    (run : ((requests encode).restrict SameAddress).Run (start clock ttl) actions s) :
    Spaced s.issued ∧
    ∀ c, (answers encode (start clock ttl).service actions).filter (·.1.client = some c) =
      answers encode (start clock ttl).service (actions.filter (·.client = some c)) := by
  have inv := run.invariant_restrict Inv (fun _ _ inv later condition => inv.step later condition)
    (start_inv clock ttl)
  exact ⟨inv.spaced,fun c => Agree.answers ⟨fun _ _ => rfl,rfl⟩ actions⟩

def plainEncode (response : NonceResponse) : Except String String := .ok response.nonce

/-- A GET of a connection from the address 10.0.0.2, with the port after it. -/
def getRequest (remoteAddr : String) (seconds : Int) (byte : UInt8) : Request :=
  ⟨⟨"GET","",remoteAddr,[]⟩,seconds * 1000000000,.ok ⟨List.replicate 31 0 ++ [byte],rfl⟩⟩

/-- One connection asks three times. -/
def oneConnection : List Request :=
  [getRequest "10.0.0.2:4000" 0 1,getRequest "10.0.0.2:4000" 10 2,getRequest "10.0.0.2:4000" 30 3]

theorem nonce_issuance_limited_oneConnection :
    ∃ s, ((requests plainEncode).restrict SameAddress).Run (start 0 300) oneConnection s ∧
      s.issued.map (·.time) = [30 * 1000000000,0] ∧ Spaced s.issued := by
  have run := System.run_of_admits ((requests plainEncode).restrict SameAddress) (start 0 300) oneConnection
    (by decide +kernel)
  exact ⟨_,run,by decide +kernel,(nonce_issuance_limited plainEncode run).1⟩

/-- A second connection of the same client gets a nonce a second after the first. -/
theorem second_connection_issued :
    ∃ s, (requests plainEncode).Run (start 0 300)
        [getRequest "10.0.0.2:4000" 0 1,getRequest "10.0.0.2:4001" 1 2] s ∧
      s.issued = [⟨"10.0.0.2","10.0.0.2:4001",1000000000⟩,⟨"10.0.0.2","10.0.0.2:4000",0⟩] ∧
      ¬ Spaced s.issued :=
  ⟨_,System.run_of_admits _ _ _ (by decide +kernel),by decide +kernel,by decide +kernel⟩

end Kommodity.Attestation.NonceIssuance
