import IntrusionDetection.ContentMatcher
import IntrusionDetection.EvaluationStats
import IntrusionDetection.FlowContext
import IntrusionDetection.Ipv4
import IntrusionDetection.RuleIndexer
import Mathlib.Data.Finset.Lattice.Basic
import Mathlib.Data.Finset.Dedup

namespace IntrusionDetection

open PyText

/-!
# Rule matching

One rule against one packet, stage by stage: header, flow, packet, content.
The first stage that fails ends the test.
-/

/-- `_ip_in`. -/
def ipIn (spec : IpSpec) (ip : Ipv4.Address) : Bool :=
  spec.any || (ip &&& spec.mask) == spec.network

/-- `_valid_port`. -/
def validPort (port : Int) : Bool :=
  0 ≤ port ∧ port ≤ portMax

/-- The transport protocol of a packet, if it is TCP or UDP. -/
def packetProtocol? (event : IDSEvent) : Option RuleProtocol :=
  match event.transportProtocol with
  | none => none
  | some text =>
      let name := lower text
      if name = lit "tcp" then some .tcp
      else if name = lit "udp" then some .udp
      else none

/-- Does a packet fit the addresses and ports of a rule, one way? -/
def fitsOneWay
    (srcIp : IpSpec) (srcPort : PortSpec)
    (dstIp : IpSpec) (dstPort : PortSpec)
    (packetSrcIp : Ipv4.Address) (packetSrcPort : Int)
    (packetDstIp : Ipv4.Address) (packetDstPort : Int) :
    Bool :=
  ipIn srcIp packetSrcIp && portIn srcPort packetSrcPort &&
    ipIn dstIp packetDstIp && portIn dstPort packetDstPort

/-- `match_header`. -/
def matchHeader (rule : Rule) (event : IDSEvent) : Bool :=
  match packetProtocol? event with
  | none => false
  | some protocol =>
      if rule.protocol ≠ .ip ∧ rule.protocol ≠ protocol then
        false
      else
        match event.srcPort, event.dstPort with
        | some srcPort, some dstPort =>
            if validPort srcPort && validPort dstPort then
              match event.srcIp.bind Ipv4.parse?,
                  event.dstIp.bind Ipv4.parse? with
              | some srcIp, some dstIp =>
                  fitsOneWay rule.srcIp rule.srcPort
                      rule.dstIp rule.dstPort
                      srcIp srcPort dstIp dstPort ||
                    (rule.direction = .bothWays &&
                      fitsOneWay rule.dstIp rule.dstPort
                        rule.srcIp rule.srcPort
                        srcIp srcPort dstIp dstPort)
              | _, _ => false
            else
              false
        | _, _ => false

/-- `match_flow`. -/
def matchFlow (rule : Rule) (ctx : Option FlowContext) : Bool :=
  match rule.flow with
  | none => true
  | some flow =>
      match ctx with
      | none => false
      | some ctx =>
          if flow.role.isSome ∧ ctx.role ≠ flow.role then
            false
          else if flow.state = some .established ∧
              ctx.established = false then
            false
          else if flow.state = some .notEstablished ∧
              ctx.established = true then
            false
          else
            true

/-- `FLAG_LETTERS`. -/
def flagLetter? (name : Str) : Option TcpFlag :=
  if name = lit "FIN" then some .f
  else if name = lit "SYN" then some .s
  else if name = lit "RST" then some .r
  else if name = lit "PSH" then some .p
  else if name = lit "ACK" then some .a
  else if name = lit "URG" then some .u
  else if name = lit "ECE" then some .e
  else if name = lit "CWR" then some .c
  else none

/-- `match_flags`. -/
def matchFlags (spec : Option FlagsSpec) (event : IDSEvent) : Bool :=
  match spec with
  | none => true
  | some spec =>
      if event.transportName ≠ lit "TCP" then
        false
      else
        match event.transportFields.get? (lit "flags") with
        | some (.list items) =>
            let names := normalizeFlags (.list items)
            let present : Finset TcpFlag :=
              (names.filterMap flagLetter?).toFinset
            match spec.mode with
            | .exact => present = spec.flags
            | .all => spec.flags ⊆ present
            | .any => (spec.flags ∩ present).Nonempty
            | .none => ¬ (spec.flags ∩ present).Nonempty
        | _ => false

/-- The measured size of a payload; `none` if it cannot be measured. -/
def payloadSize? (payload : Payload) : Option Nat :=
  match payload with
  | .none => some 0
  | .bytes data => some data.length
  | .bytearray data => some data.length
  | .memoryview data => some data.length
  | .other truthy => if truthy then none else some 0

/-- `match_dsize`. -/
def matchDsize (spec : Option DsizeSpec) (event : IDSEvent) : Bool :=
  match spec with
  | none => true
  | some spec =>
      match payloadSize? event.payload with
      | none => false
      | some size =>
          match spec.op with
          | .eq => (size : Int) = spec.a
          | .lt => (size : Int) < spec.a
          | .gt => spec.a < (size : Int)
          | .range => spec.a ≤ size ∧ ∃ upper ∈ spec.b, (size : Int) ≤ upper

/-- A complete match: the rule and the details for the detection. -/
structure RuleMatch where
  rule : Rule
  details : List MatchDetail
  notEmpty : details ≠ []

/-- The details of a rule without contents are not empty. -/
theorem header_ne_nil : [MatchDetail.header] ≠ [] :=
  List.cons_ne_nil _ _

/--
`MatchResult`: a match with its details, or the first stage that failed.  The
two shapes are those the constructor accepts.
-/
inductive MatchResult where
  | matched (found : RuleMatch)
  | failed (rule : Rule) (stage : Stage)

/-- What a packet's `content_fn` keeps from rule to rule. -/
abbrev ContentCache := Option Bytes

/-- A `content_fn` that may raise, with the cache passed along. -/
abbrev ContentFn :=
  ContentCache → Rule →
    ContentCache × Except PyException (Option (List MatchDetail))

/-- `match_rule`, with the statistics and the cache passed along. -/
def matchRule
    (content : ContentFn)
    (event : IDSEvent)
    (ctx : Option FlowContext)
    (stats : EvaluationStats)
    (cache : ContentCache)
    (rule : Rule) :
    EvaluationStats × ContentCache × Except PyException MatchResult :=
  let headerOk := matchHeader rule event
  let stats := stats.recordStage .header headerOk
  if headerOk = false then
    (stats, cache, .ok (.failed rule .header))
  else
    let flowOk := matchFlow rule ctx
    let stats := stats.recordStage .flow flowOk
    if flowOk = false then
      (stats, cache, .ok (.failed rule .flow))
    else
      let packetOk := matchFlags rule.flags event &&
        matchDsize rule.dsize event
      let stats := stats.recordStage .packet packetOk
      if packetOk = false then
        (stats, cache, .ok (.failed rule .packet))
      else if rule.contents = [] then
        (stats, cache, .ok (.matched ⟨rule, [.header], header_ne_nil⟩))
      else
        match content cache rule with
        | (cache, .error exception) => (stats, cache, .error exception)
        | (cache, .ok found) =>
            let details := found.getD []
            if notEmpty : details ≠ [] then
              (stats.recordStage .content true, cache,
                .ok (.matched ⟨rule, details, notEmpty⟩))
            else
              (stats.recordStage .content false, cache,
                .ok (.failed rule .content))

end IntrusionDetection
