import RuuviGateway.HttpPost.Model
import RuuviGateway.Lib.Hex

/-!
# The HMAC of a post

`hmac_sha256.c`, and what `http_send_advs_internal`, `http_send_statistics_internal` and
`http_send_async` do with it.  The digest of a post is calculated into `http_async_info_t`, which
is one for all posts, and both callers drop whether that has succeeded.  So a post carries
whatever digest stands there.

`mbedtls` is the parameter `hmac`, with an outcome for each of its calls.  A generator of
`json_stream_gen` is the list of its chunks and whether it fails after them.  It gives the same
chunks after each reset, since it works on a copy of the reports.  A post is the request that
`http_send_async` hands to the HTTP client.
-/

namespace RuuviGateway
namespace HmacSha256

open HttpPost (Recipient)

/-! ## The keys -/

/-- `HMAC_SHA256_MAX_KEY_SIZE`. -/
def maxKeySize : Nat := 64

/-- `hmac_sha256_key_t`. -/
structure HmacKey where
  key : List UInt8
  keySize : Nat
  length_key : key.length = maxKeySize
  keySize_lt : keySize < maxKeySize

/-- The key itself. -/
def HmacKey.bytes (k : HmacKey) : List UInt8 := k.key.take k.keySize

/-- `hmac_sha256_set_key_bin`. -/
def setKeyBin (storage : HmacKey) (key : List UInt8) : Bool × HmacKey :=
  if hlong : key.length ≥ maxKeySize then (false, storage)
  else if key.length = storage.keySize ∧ storage.key.take key.length = key then (true, storage)
  else
    (true,
      { key := key ++ storage.key.drop key.length
        keySize := key.length
        length_key := by
          rw [List.length_append, List.length_drop, storage.length_key]
          omega
        keySize_lt := Nat.lt_of_not_le hlong })

/-! ## `mbedtls` and the generator -/

/-- `hmac_sha256_t`: 32 bytes. -/
abbrev Digest := Vector UInt8 32

/-- The calls of `mbedtls` in one calculation. -/
structure MdEnv where
  /-- `mbedtls_md_info_from_type` knows SHA-256. -/
  info : Bool
  setup : Bool
  hmacStarts : Bool
  hmacUpdate : Nat → Bool
  hmacFinish : Bool
  /-- What a `mbedtls_md_hmac_finish` that fails leaves in the output. -/
  left : Digest → Digest
  /-- `mbedtls_md_hmac`. -/
  hmac : Bool

/-- `json_stream_gen_t`: the chunks that are left, all of them, and whether the end follows
them or an error. -/
structure JsonStreamGen where
  rest : List (List UInt8)
  chunks : List (List UInt8)
  complete : Bool

/-- `json_stream_gen_reset`. -/
def JsonStreamGen.reset (g : JsonStreamGen) : JsonStreamGen := { g with rest := g.chunks }

/-- A generator as `http_json_create_stream_gen_advs` returns it. -/
def JsonStreamGen.create (chunks : List (List UInt8)) (complete : Bool) : JsonStreamGen :=
  { rest := chunks, chunks := chunks, complete := complete }

/-- The loop of `hmac_sha256_calc_for_json_gen` over the chunks that are left: the message, or
`none` if the generator or an update fails; `i` counts the updates. -/
def updateLoop (md : MdEnv) (complete : Bool) : Nat → List (List UInt8) → Option (List UInt8)
  | _, [] => if complete then some [] else none
  | i, chunk :: rest =>
      if md.hmacUpdate i then (updateLoop md complete (i + 1) rest).map (chunk ++ ·) else none

variable (hmac : List UInt8 → List UInt8 → Digest)

/-- `hmac_sha256_calc_for_json_gen`: the result, the digest and the generator. -/
def hmacSha256CalcForJsonGen (md : MdEnv) (gen : JsonStreamGen) (key : HmacKey) (digest : Digest) :
    Bool × Digest × JsonStreamGen :=
  if !md.info then (false, digest, gen)
  else if !md.setup then (false, digest, gen.reset)
  else if !md.hmacStarts then (false, digest, gen.reset)
  else
    match updateLoop md gen.complete 0 gen.rest with
    | none => (false, digest, gen.reset)
    | some msg =>
        if !md.hmacFinish then (false, md.left digest, gen.reset)
        else (true, hmac key.bytes msg, gen.reset)

/-- The digest of nothing but zeros. -/
def Digest.zero : Digest := Vector.replicate 32 0

/-- `hmac_sha256_calc`. -/
def hmacSha256Calc (md : MdEnv) (str : List UInt8) (key : HmacKey) : Bool × Digest :=
  if !md.hmac then (false, Digest.zero) else (true, hmac key.bytes str)

/-- `hmac_sha256_to_str_buf`; there may be no memory for the string. -/
def toStrBuf (digest : Digest) (memory : Bool) : Option (List Char) :=
  if memory then some (Hex.text false digest.toList) else none

/-- `hmac_sha256_is_str_valid`. -/
def isStrValid : Option (List Char) → Bool
  | none => false
  | some [] => false
  | some (c :: _) => c != '\x00'

/-! ## Posts -/

/-- What a post finds apart from the state. -/
structure PostEnv where
  /-- The post gets as far as the calculation. -/
  prepared : Bool
  md : MdEnv
  /-- `esp_http_client_set_cb_on_post_get_chunk` or `esp_http_client_set_post_field`. -/
  setPostData : Bool
  /-- There is memory for the text of the digest. -/
  strMemory : Bool
  /-- `esp_http_client_set_header` of `Ruuvi-HMAC-SHA256`. -/
  setHeader : Bool

/-- A request as it is handed to the HTTP client, with the key of its target at that time. -/
structure HttpRequest where
  recipient : Recipient
  key : List UInt8
  body : List UInt8
  /-- `Ruuvi-HMAC-SHA256`. -/
  header : Option (List Char)
  deriving DecidableEq

/-- The keys, `http_async_info_t.hmac_sha256`, and the requests so far. -/
structure HmacState where
  keys : Recipient → HmacKey
  digest : Digest
  sent : List HttpRequest

/-- `http_send_async` of a body. -/
def httpSendAsync (e : PostEnv) (recipient : Recipient) (body : List UInt8) (s : HmacState) :
    HmacState :=
  if !e.setPostData then s
  else
    let str := toStrBuf s.digest e.strMemory
    let header := if isStrValid str && e.setHeader then str else none
    { s with
      sent := s.sent ++
        [{ recipient := recipient, key := (s.keys recipient).bytes, body := body,
           header := header }] }

/-- `http_send_advs_internal`, from the calculation on.  `http_send_async` reads the generator
for the log and resets it before the client reads it. -/
def httpSendAdvsInternal (flagPostToRuuvi : Bool) (gen : JsonStreamGen) (e : PostEnv)
    (s : HmacState) : HmacState :=
  if !e.prepared then s
  else
    let recipient := if flagPostToRuuvi then .advs1 else .advs2
    let r := hmacSha256CalcForJsonGen hmac e.md gen (s.keys recipient) s.digest
    httpSendAsync e recipient r.2.2.reset.rest.flatten { s with digest := r.2.1 }

/-- `http_send_statistics_internal`, from the calculation on. -/
def httpSendStatisticsInternal (cjsonStr : List UInt8) (e : PostEnv) (s : HmacState) :
    HmacState :=
  if !e.prepared then s
  else
    let r := hmacSha256Calc hmac e.md cjsonStr (s.keys .stats)
    httpSendAsync e .stats cjsonStr { s with digest := r.2 }

/-- A step: a post, or a key that a server has sent in `Ruuvi-HMAC-KEY`. -/
inductive HmacAct where
  | postAdvs (flagPostToRuuvi : Bool) (chunks : List (List UInt8)) (complete : Bool) (e : PostEnv)
  | postStat (cjsonStr : List UInt8) (e : PostEnv)
  | setKey (recipient : Recipient) (key : List UInt8)

/-- One step. -/
def step (s : HmacState) : HmacAct → HmacState
  | .postAdvs flagPostToRuuvi chunks complete e =>
      httpSendAdvsInternal hmac flagPostToRuuvi (.create chunks complete) e s
  | .postStat cjsonStr e => httpSendStatisticsInternal hmac cjsonStr e s
  | .setKey recipient key =>
      { s with
        keys := Function.update s.keys recipient (setKeyBin (s.keys recipient) key).2 }

/-- A run. -/
def run (s : HmacState) (acts : List HmacAct) : HmacState := acts.foldl (step hmac) s

/-- Before the first post: `http_async_info_t` is static. -/
def HmacState.start (keys : Recipient → HmacKey) : HmacState :=
  { keys := keys, digest := .zero, sent := [] }

variable {hmac}

end HmacSha256
end RuuviGateway
