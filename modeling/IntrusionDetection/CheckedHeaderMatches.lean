import IntrusionDetection.CheckedHeaderParser

namespace IntrusionDetection

open PyText CheckedSteps FaultPrecedence

/-!
# The header parser ends as the one without exceptions

Types that carry the checks of the constructors describe the same objects: each
value stands for an object its constructor accepts.  The tokenizer and the
header parser make such objects only, and raise nothing but a `RuleSyntaxError`
with a registered reason.
-/

open Checked (Parser Raised Construction)

/-- The object a block is. -/
def IpSpec.object (spec : IpSpec) : Checked.IpSpec where
  any := spec.any
  network := spec.network.toNat
  mask := spec.mask.toNat

/-- The object a port range is. -/
def PortSpec.object (spec : PortSpec) : Checked.PortSpec where
  lo := spec.lo
  hi := spec.hi

/-- How rules spell a direction. -/
def RuleDirection.text : RuleDirection → Str
  | .oneWay => lit "->"
  | .bothWays => lit "<>"

/-- The object a header is. -/
def Header.object (header : Header) : Checked.Header where
  action := lit "alert"
  protocol := header.protocol.name
  srcIp := header.srcIp.object
  srcPort := header.srcPort.object
  direction := header.direction.text
  dstIp := header.dstIp.object
  dstPort := header.dstPort.object

/-- The words of a block fit into its constructor. -/
theorem IpSpec.object_accepted (spec : IpSpec) :
    (Construction.ipSpec spec.object).accepted = true := by
  have network := spec.network.isLt
  have mask := spec.mask.isLt
  refine decide_eq_true ⟨⟨?_, ?_⟩, ?_, ?_⟩ <;>
    simp only [IpSpec.object] <;> omega

/-- A port range fits into its constructor. -/
theorem PortSpec.object_accepted (spec : PortSpec) :
    (Construction.portSpec spec.object).accepted = true :=
  decide_eq_true spec.inRange

/-- Every code of a reason is registered. -/
theorem RuleReason.isValidReason_code (reason : RuleReason) :
    Checked.isValidReason reason.code = true := by
  have ofPrefix :
      ∀ leading ∈ Checked.reasonPrefixes, ∀ word : Word,
        Checked.isValidReason (leading ++ word.text) = true := by
    intro leading member word
    have isPrefix : startsWith leading (leading ++ word.text) = true :=
      List.isPrefixOf_iff_prefix.mpr (List.prefix_append _ _)
    have longer : leading.length < (leading ++ word.text).length := by
      rw [List.length_append]
      exact Nat.lt_add_of_pos_right (List.length_pos_iff.mpr word.notEmpty)
    rw [Checked.isValidReason, Bool.or_eq_true]
    refine Or.inr (List.any_eq_true.mpr ⟨leading, member, ?_⟩)
    rw [isPrefix, decide_eq_true longer]
    rfl
  cases reason with
  | badOptionValue word =>
      exact ofPrefix _ (by simp [Checked.reasonPrefixes]) word
  | duplicateOption word =>
      exact ofPrefix _ (by simp [Checked.reasonPrefixes]) word
  | action word => exact ofPrefix _ (by simp [Checked.reasonPrefixes]) word
  | protocol word => exact ofPrefix _ (by simp [Checked.reasonPrefixes]) word
  | keyword word => exact ofPrefix _ (by simp [Checked.reasonPrefixes]) word
  | flowOption word => exact ofPrefix _ (by simp [Checked.reasonPrefixes]) word
  | _ =>
      simp [Checked.isValidReason, Checked.reasonCodes, RuleReason.code]

/-- The exception a reason is reported with. -/
def RuleReason.raised (reason : RuleReason) : Raised :=
  .ruleSyntaxError reason.code

/-- A part of the parser ends as the plain part does. -/
abbrev FollowsPlain
    {Value Made : Type}
    (Stands : Value → Made → Prop)
    (computation : Parser Made)
    (outcome : Except RuleReason Value) : Prop :=
  Matches Construction.accepted RuleReason.raised Stands computation
    outcome

section Rules

variable {Value Made : Type} {Stands : Value → Made → Prop}

/-- Raising a reason is what the plain part fails with. -/
theorem follows_raise (reason : RuleReason) :
    FollowsPlain Stands (Checked.raise reason.code) (.error reason) :=
  .construct_bind reason.isValidReason_code (.throw reason)

/-- Raising it under the text of its code. -/
theorem follows_raise_of
    {reason : RuleReason}
    {code : Str}
    (isCode : reason.code = code) :
    FollowsPlain Stands (Checked.raise code) (.error reason) := by
  rw [← isCode]
  exact follows_raise reason

/-- Nothing after it is reached. -/
theorem raise_bind
    {Before : Type}
    (code : Str)
    (next : Before → Parser Made) :
    Checked.raise code >>= next = Checked.raise code := by
  unfold Checked.raise
  rw [bind_assoc]
  rfl

/-- Nothing after a reason is reached. -/
theorem follows_raise_bind
    {Before : Type}
    (reason : RuleReason)
    (next : Before → Parser Made) :
    FollowsPlain Stands (Checked.raise reason.code >>= next)
      (.error reason) := by
  rw [raise_bind]
  exact follows_raise reason

/-- An accepted object is made. -/
theorem follows_make
    {kind : Made → Construction}
    {value : Value}
    {made : Made}
    (accepted : (kind made).accepted = true)
    (stands : Stands value made) :
    FollowsPlain Stands (Checked.make kind made) (.ok value) :=
  .construct_bind accepted (.pure stands)

/-- A handler for `ValueError` is not needed. -/
@[simp] theorem exceptValueError_pure (made : Made) (handler : Parser Made) :
    Checked.exceptValueError (pure made) handler = pure made :=
  rfl

/-- A handler for `ValueError` catches one. -/
@[simp] theorem exceptValueError_throw (handler : Parser Made) :
    Checked.exceptValueError (throw .valueError) handler = handler :=
  rfl

end Rules

/-! ### Structure -/

/-- A keyword that is read from its spelling. -/
def Keyword.IsRead (key : Keyword) : Prop :=
  key = .ofWord key.word

/-- An option as the tokenizer returns it. -/
def OptionPair.raw (option : OptionPair) : Checked.RawOption :=
  (option.key.word.text, option.value)

/-- The raw options of options whose keywords are read from them. -/
def ReadFrom
    (options : List OptionPair)
    (raws : List Checked.RawOption) : Prop :=
  raws = options.map OptionPair.raw ∧
    ∀ option ∈ options, option.key.IsRead

/-- What the tokenizer returns, with keywords in place of keys. -/
def TokensRead
    (tokenized : HeaderTokens × List OptionPair)
    (made : List Str × List Checked.RawOption) : Prop :=
  made.1 = tokenized.1.list ∧ ReadFrom tokenized.2 made.2

/-- A piece that is an option stands for the option it is. -/
def PieceRead
    (option : Option OptionPair)
    (raw : Option Checked.RawOption) : Prop :=
  raw = option.map OptionPair.raw ∧ ∀ read ∈ option, read.key.IsRead

/-- A keyword is read from what it spells. -/
theorem Keyword.isRead_ofWord (key : Word) : (Keyword.ofWord key).IsRead := by
  unfold Keyword.IsRead
  rw [Keyword.word_ofWord]

/-- The option a piece is. -/
theorem follows_pieceOption? (piece : Str) :
    FollowsPlain PieceRead (Checked.pieceOption? piece) (parsePiece piece) := by
  unfold Checked.pieceOption? parsePiece
  split
  · exact .pure ⟨rfl, fun _ member => (Option.not_mem_none _ member).elim⟩
  · obtain ⟨key, value⟩ := partition (codePoint ':') (strip piece)
    simp only [Word.of?]
    by_cases empty : strip key = []
    · rw [if_pos empty, dif_neg (not_not.mpr empty)]
      exact follows_raise .malformedRule
    · rw [if_neg empty, dif_pos empty]
      refine .pure ⟨?_, ?_⟩
      · simp [OptionPair.raw, Keyword.word_ofWord]
      · rintro _ ⟨rfl⟩
        exact Keyword.isRead_ofWord _

/-- The options among the pieces. -/
theorem readFrom_reduceOption
    {options : List (Option OptionPair)}
    {raws : List (Option Checked.RawOption)}
    (read : List.Forall₂ PieceRead options raws) :
    ReadFrom options.reduceOption raws.reduceOption := by
  induction read with
  | nil =>
      exact ⟨rfl, fun _ member => (List.not_mem_nil member).elim⟩
  | @cons option raw options raws first _ inductionHypothesis =>
      obtain ⟨rfl, isRead⟩ := first
      obtain ⟨sameRest, restRead⟩ := inductionHypothesis
      cases option with
      | none => exact ⟨sameRest, restRead⟩
      | some option =>
          refine ⟨congrArg (option.raw :: ·) sameRest, ?_⟩
          intro other member
          rcases List.mem_cons.mp member with isFirst | inRest
          · rw [isFirst]
            exact isRead option rfl
          · exact restRead other inRest

/-- The options of a body. -/
theorem follows_splitOptions (body : Str) :
    FollowsPlain ReadFrom (Checked.splitOptions body) (splitOptions body) := by
  unfold Checked.splitOptions splitOptions
  cases splitPieces false [] body with
  | none => exact follows_raise .malformedRule
  | some pieces =>
      refine (Matches.mapM follows_pieceOption? pieces).map ?_
      intro options raws _ read
      exact readFrom_reduceOption read

/-- Seven words are header tokens. -/
theorem headerTokens_of_length
    {tokens : List Str}
    (seven : tokens.length = 7) :
    ∃ header, HeaderTokens.of? tokens = some header ∧
      tokens = header.list := by
  match tokens, seven with
  | [action, protocol, srcIp, srcPort, direction, dstIp, dstPort], _ =>
      exact ⟨⟨action, protocol, srcIp, srcPort, direction, dstIp, dstPort⟩,
        rfl, rfl⟩

/-- Any other number of words is none. -/
theorem headerTokens_of_length_ne
    {tokens : List Str}
    (notSeven : tokens.length ≠ 7) :
    HeaderTokens.of? tokens = none := by
  unfold HeaderTokens.of?
  split
  · exact (notSeven rfl).elim
  · rfl

/-- The words before the options. -/
theorem follows_headerTokens
    (headerTokens : List Str)
    {options : List OptionPair}
    {raws : List Checked.RawOption}
    (read : ReadFrom options raws) :
    FollowsPlain TokensRead
      (if headerTokens.length ≠ 7 then
        Checked.raise (lit "invalid:bad_header")
      else
        pure (headerTokens, raws))
      (match HeaderTokens.of? headerTokens with
        | none => .error .badHeader
        | some tokens => .ok (tokens, options)) := by
  by_cases seven : headerTokens.length = 7
  · obtain ⟨header, isHeader, same⟩ := headerTokens_of_length seven
    rw [if_neg (not_not.mpr seven), isHeader]
    exact .pure ⟨same, read⟩
  · rw [if_pos seven, headerTokens_of_length_ne seven]
    exact follows_raise .badHeader

/-- The tokenizer. -/
theorem follows_tokenizeRule (text : Str) :
    FollowsPlain TokensRead (Checked.tokenizeRule text) (tokenizeRule text) := by
  simp only [Checked.tokenizeRule, tokenizeRule]
  cases PyText.find? (codePoint '(') (strip text) with
  | none => exact follows_raise .malformedRule
  | some openIdx =>
      cases rfind? (codePoint ')') (strip text) with
      | none => exact follows_raise .malformedRule
      | some closeIdx =>
          simp only
          split
          · exact follows_raise .malformedRule
          · have read :=
              (follows_splitOptions
                ((strip text).take closeIdx |>.drop (openIdx + 1))).bind
                fun options raws _ read =>
                  follows_headerTokens (words ((strip text).take openIdx))
                    read
            cases options :
                splitOptions
                  ((strip text).take closeIdx |>.drop (openIdx + 1)) <;>
              rw [options] at read <;> exact read

/-! ### Header fields -/

/-- What is no IPv4 network is rejected, whether it is an IPv6 one or not. -/
theorem follows_badNetwork (isIpv6 : Bool) :
    FollowsPlain (fun (spec : IpSpec) made => made = spec.object)
      (do
        let network ←
          Checked.exceptValueError
            (if isIpv6 then pure Checked.Network.v6 else throw .valueError)
            (Checked.raise (lit "invalid:bad_ip"))
        match network with
        | .v6 => Checked.raise (lit "invalid:bad_ip")
        | .v4 network mask =>
            Checked.make .ipSpec {
              any := false
              network := network.toNat
              mask := mask.toNat })
      (.error .badIp) := by
  cases isIpv6 with
  | true => exact follows_raise .badIp
  | false => exact follows_raise_bind .badIp _

/-- The block a token is. -/
theorem follows_parseIp (isIpv6Network : Str → Bool) (token : Str) :
    FollowsPlain (fun spec made => made = spec.object)
      (Checked.parseIp isIpv6Network token) (parseIp token) := by
  unfold Checked.parseIp parseIp
  split
  · exact follows_make (by decide) rfl
  · split
    · exact follows_raise .ipSyntax
    · rcases cut : partition (codePoint '/') token with ⟨address, digits⟩
      simp only [Checked.ipNetwork, cut]
      split
      · rename_i notDigits
        have noLength : prefixLength? digits = none := by
          cases digits with
          | none => simp at notDigits
          | some digits =>
              have notDigits : isAsciiDigits digits = false := by
                simpa using notDigits
              simp [prefixLength?, notDigits]
        rw [noLength]
        cases Ipv4.parse? address <;> exact follows_raise .badIp
      · cases Ipv4.parse? address with
        | none => exact follows_badNetwork _
        | some word =>
            cases prefixLength? digits with
            | none => exact follows_badNetwork _
            | some length =>
                exact follows_make
                  (IpSpec.object_accepted
                    { any := false
                      network := word &&& netmask length
                      mask := netmask length })
                  rfl

/-- A port number, or the `ValueError` there is in its place. -/
theorem portNumber_eq (text : Str) (default : Option Int) :
    Checked.portNumber text default =
      match portNumber? text default with
      | some number => pure number
      | none => throw .valueError := by
  unfold Checked.portNumber portNumber? Checked.int
  cases text with
  | nil => cases default <;> rfl
  | cons char rest =>
      cases isAsciiDigits (char :: rest) with
      | false => rfl
      | true => cases intOfDigits? (char :: rest) <;> rfl

/-- The range two numbers make. -/
theorem follows_portRange (lo hi : Option Int) :
    FollowsPlain (fun spec made => made = spec.object)
      (Checked.portRange
        (match lo with
          | some number => pure number
          | none => throw .valueError)
        (match hi with
          | some number => pure number
          | none => throw .valueError))
      (portRange lo hi) := by
  cases lo with
  | none => exact follows_raise_bind .badPort _
  | some lo =>
      cases hi with
      | none => exact follows_raise_bind .badPort _
      | some hi =>
          unfold Checked.portRange portRange
          simp only [pure_bind, exceptValueError_pure]
          split
          · rename_i inRange
            exact follows_make
              (PortSpec.object_accepted { lo, hi, inRange }) rfl
          · exact follows_raise .badPort

/-- The port range a token is. -/
theorem follows_parsePort (token : Str) :
    FollowsPlain (fun spec made => made = spec.object)
      (Checked.parsePort token) (parsePort token) := by
  unfold Checked.parsePort parsePort
  split
  · exact follows_make (by decide) rfl
  · split
    · exact follows_raise .portSyntax
    · rcases partition (codePoint ':') token with ⟨loText, _ | hiText⟩
      · simp only [portNumber_eq]
        exact follows_portRange _ _
      · simp only [portNumber_eq]
        split
        · exact follows_raise .badPort
        · exact follows_portRange _ _

/-- The action of a rule. -/
theorem follows_parseAction (token : Str) :
    FollowsPlain (fun _ made => made = lit "alert")
      (Checked.parseAction token) (parseAction token) := by
  unfold Checked.parseAction parseAction
  by_cases isAlert : token = lit "alert"
  · have isAction : Checked.ruleActions.contains token = true := by
      simp [Checked.ruleActions, isAlert]
    rw [if_pos isAlert, if_pos isAction]
    exact .pure isAlert
  · have notAction : Checked.ruleActions.contains token = false := by
      simp [Checked.ruleActions, isAlert]
    rw [if_neg isAlert, notAction]
    by_cases known : token ∈ unsupportedActions
    · rw [dif_pos known, List.contains_iff_mem.mpr known]
      exact follows_raise_of (by simp only [RuleReason.code])
    · rw [dif_neg known, Bool.eq_false_iff.mpr
        fun member => known (List.contains_iff_mem.mp member)]
      exact follows_raise .badHeader

/-- The protocol of a rule. -/
theorem follows_parseProtocol (token : Str) :
    FollowsPlain (fun protocol made => made = RuleProtocol.name protocol)
      (Checked.parseProtocol token) (parseProtocol token) := by
  unfold Checked.parseProtocol parseProtocol
  have isProtocol :
      Checked.ruleProtocols.contains token = true ↔
        token = RuleProtocol.tcp.name ∨ token = RuleProtocol.udp.name ∨
          token = RuleProtocol.ip.name := by
    simp [Checked.ruleProtocols, RuleProtocol.name]
  by_cases isTcp : token = RuleProtocol.tcp.name
  · rw [if_pos isTcp, if_pos (isProtocol.mpr (Or.inl isTcp))]
    exact .pure isTcp
  by_cases isUdp : token = RuleProtocol.udp.name
  · rw [if_neg isTcp, if_pos isUdp,
      if_pos (isProtocol.mpr (Or.inr (Or.inl isUdp)))]
    exact .pure isUdp
  by_cases isIp : token = RuleProtocol.ip.name
  · rw [if_neg isTcp, if_neg isUdp, if_pos isIp,
      if_pos (isProtocol.mpr (Or.inr (Or.inr isIp)))]
    exact .pure isIp
  have notProtocol : Checked.ruleProtocols.contains token = false :=
    Bool.eq_false_iff.mpr fun known =>
      (isProtocol.mp known).elim isTcp (Or.rec isUdp isIp)
  rw [if_neg isTcp, if_neg isUdp, if_neg isIp, notProtocol]
  by_cases known : token ∈ unsupportedProtocols
  · rw [dif_pos known, List.contains_iff_mem.mpr known]
    exact follows_raise_of (by simp only [RuleReason.code])
  · rw [dif_neg known, Bool.eq_false_iff.mpr
      fun member => known (List.contains_iff_mem.mp member)]
    exact follows_raise .badHeader

/-- The direction of a rule. -/
theorem follows_parseDirection (token : Str) :
    FollowsPlain (fun direction made => made = RuleDirection.text direction)
      (Checked.parseDirection token) (parseDirection token) := by
  unfold Checked.parseDirection parseDirection
  by_cases oneWay : token = lit "->"
  · rw [if_pos oneWay, if_pos (by simp [Checked.ruleDirections, oneWay])]
    exact .pure oneWay
  by_cases bothWays : token = lit "<>"
  · rw [if_neg oneWay, if_pos bothWays,
      if_pos (by simp [Checked.ruleDirections, bothWays])]
    exact .pure bothWays
  have notDirection : Checked.ruleDirections.contains token = false := by
    simp [Checked.ruleDirections, oneWay, bothWays]
  rw [if_neg oneWay, if_neg bothWays, notDirection]
  exact follows_raise .badDirection

/-! ### The header -/

/-- A round of the header loop without exceptions. -/
def headerField
    {Field : Type}
    (outcome : Except RuleReason Field)
    (firstUnsupported : Option RuleReason) :
    Except RuleReason (Option Field × Option RuleReason) :=
  match outcome with
  | .ok value => .ok (some value, firstUnsupported)
  | .error reason =>
      if reason.isInvalid then
        .error reason
      else
        .ok (none, firstUnsupported.or (some reason))

/-- A round of the header loop takes one more fault. -/
theorem headerLoop_cons
    {Field : Type}
    (outcome : Except RuleReason Field)
    (firstUnsupported : Option RuleReason)
    (rest : List (Option RuleReason)) :
    headerLoop firstUnsupported (errorOf outcome :: rest) =
      (headerField outcome firstUnsupported >>= fun field =>
        headerLoop field.2 rest) := by
  cases outcome with
  | ok value => rfl
  | error reason =>
      simp only [errorOf, headerLoop, headerField]
      split <;> rfl

/-- Without an unsupported field so far, the field has its value. -/
theorem headerField_eq_ok_none
    {Field : Type}
    {outcome : Except RuleReason Field}
    {firstUnsupported : Option RuleReason}
    {field : Option Field × Option RuleReason}
    (read : headerField outcome firstUnsupported = .ok field)
    (supported : field.2 = none) :
    firstUnsupported = none ∧
      ∃ value, outcome = .ok value ∧ field.1 = some value := by
  cases outcome with
  | ok value =>
      cases read
      exact ⟨supported, value, rfl, rfl⟩
  | error reason =>
      simp only [headerField] at read
      split at read
      · cases read
      · cases read
        cases firstUnsupported <;> cases supported

/-- What a round of the header loop keeps. -/
def FieldStands
    {Field Made : Type}
    (Stands : Field → Made → Prop)
    (field : Option Field × Option RuleReason)
    (made : Option Made × Option Str) : Prop :=
  Option.Rel Stands field.1 made.1 ∧ made.2 = field.2.map RuleReason.code

/-- A round of the header loop. -/
theorem follows_headerField
    {Field Made : Type}
    {Stands : Field → Made → Prop}
    {parse : Parser Made}
    {outcome : Except RuleReason Field}
    (follows : FollowsPlain Stands parse outcome)
    {firstUnsupported : Option RuleReason}
    {first : Option Str}
    (same : first = firstUnsupported.map RuleReason.code) :
    FollowsPlain (FieldStands Stands)
      (Checked.headerField parse first)
      (headerField outcome firstUnsupported) := by
  subst same
  have body :
      FollowsPlain (FieldStands Stands)
        (parse >>= fun value =>
          pure (some value, firstUnsupported.map RuleReason.code))
        (outcome.map fun value => (some value, firstUnsupported)) :=
    follows.map fun value made _ stands => ⟨.some stands, rfl⟩
  refine body.tryCatch ?_ ?_
  · intro field isField
    cases outcome with
    | ok value => exact isField
    | error reason => cases isField
  · intro reason isReason
    cases outcome with
    | ok value => cases isReason
    | error reason' =>
        cases isReason
        change
          FollowsPlain (FieldStands Stands)
            (if Checked.isInvalidReason reason.code then
              throw (.ruleSyntaxError reason.code)
            else
              pure (none,
                (firstUnsupported.map RuleReason.code).or
                  (some reason.code)))
            (headerField (.error reason) firstUnsupported)
        simp only [Checked.isInvalidReason,
          ← reason.isInvalid_eq_startsWith, headerField]
        split
        · exact .throw reason
        · refine .pure ⟨.none, ?_⟩
          cases firstUnsupported <;> rfl

/-- The header of fields that all have a value. -/
def headerOf
    (action : Option Unit)
    (protocol : Option RuleProtocol)
    (srcIp : Option IpSpec)
    (srcPort : Option PortSpec)
    (direction : Option RuleDirection)
    (dstIp : Option IpSpec)
    (dstPort : Option PortSpec) :
    Except RuleReason Header :=
  match action, protocol, srcIp, srcPort, direction, dstIp, dstPort with
  | some _, some protocol, some srcIp, some srcPort, some direction,
      some dstIp, some dstPort =>
      .ok { protocol, srcIp, srcPort, direction, dstIp, dstPort }
  | _, _, _, _, _, _, _ => .error .badHeader

/-- The header loop without exceptions, with the values it keeps. -/
def headerFields (tokens : HeaderTokens) : Except RuleReason Header := do
  let action ← headerField (parseAction tokens.action) none
  let protocol ← headerField (parseProtocol tokens.protocol) action.2
  let srcIp ← headerField (parseIp tokens.srcIp) protocol.2
  let srcPort ← headerField (parsePort tokens.srcPort) srcIp.2
  let direction ← headerField (parseDirection tokens.direction) srcPort.2
  let dstIp ← headerField (parseIp tokens.dstIp) direction.2
  let dstPort ← headerField (parsePort tokens.dstPort) dstIp.2
  match dstPort.2 with
  | some reason => .error reason
  | none =>
      headerOf action.1 protocol.1 srcIp.1 srcPort.1 direction.1 dstIp.1
        dstPort.1

/-- What follows a parse matters only where the parse succeeds. -/
theorem bind_congr_ok
    {Value Next : Type}
    {outcome : Except RuleReason Value}
    {first second : Value → Except RuleReason Next}
    (same :
      ∀ value, outcome = .ok value → first value = second value) :
    (outcome >>= first) = (outcome >>= second) := by
  cases outcome with
  | error reason => rfl
  | ok value => exact same value rfl

/-- The loop keeps the values the fields are parsed to. -/
theorem parseHeader_eq_headerFields (tokens : HeaderTokens) :
    parseHeader tokens = headerFields tokens := by
  unfold parseHeader headerFields fieldFaults
  simp only [headerLoop_cons, bind_assoc]
  refine bind_congr_ok fun action isAction => ?_
  refine bind_congr_ok fun protocol isProtocol => ?_
  refine bind_congr_ok fun srcIp isSrcIp => ?_
  refine bind_congr_ok fun srcPort isSrcPort => ?_
  refine bind_congr_ok fun direction isDirection => ?_
  refine bind_congr_ok fun dstIp isDstIp => ?_
  refine bind_congr_ok fun dstPort isDstPort => ?_
  cases supported : dstPort.2 with
  | some reason => rfl
  | none =>
      obtain ⟨supported, _, parsedDstPort, hasDstPort⟩ :=
        headerField_eq_ok_none isDstPort supported
      obtain ⟨supported, _, parsedDstIp, hasDstIp⟩ :=
        headerField_eq_ok_none isDstIp supported
      obtain ⟨supported, _, parsedDirection, hasDirection⟩ :=
        headerField_eq_ok_none isDirection supported
      obtain ⟨supported, _, parsedSrcPort, hasSrcPort⟩ :=
        headerField_eq_ok_none isSrcPort supported
      obtain ⟨supported, _, parsedSrcIp, hasSrcIp⟩ :=
        headerField_eq_ok_none isSrcIp supported
      obtain ⟨supported, _, parsedProtocol, hasProtocol⟩ :=
        headerField_eq_ok_none isProtocol supported
      obtain ⟨_, _, _, hasAction⟩ :=
        headerField_eq_ok_none isAction supported
      rw [hasAction, hasProtocol, hasSrcIp, hasSrcPort, hasDirection,
        hasDstIp, hasDstPort, parsedProtocol, parsedSrcIp, parsedSrcPort,
        parsedDirection, parsedDstIp, parsedDstPort]
      rfl

/-- Without an unsupported field so far, the object of the field is there. -/
theorem FieldStands.of_supported
    {Field Made : Type}
    {Stands : Field → Made → Prop}
    {outcome : Except RuleReason Field}
    {firstUnsupported : Option RuleReason}
    {field : Option Field × Option RuleReason}
    {made : Option Made × Option Str}
    (stands : FieldStands Stands field made)
    (read : headerField outcome firstUnsupported = .ok field)
    (supported : field.2 = none) :
    firstUnsupported = none ∧
      ∃ value object,
        field.1 = some value ∧ made.1 = some object ∧
          Stands value object := by
  obtain ⟨supportedBefore, value, _, hasValue⟩ :=
    headerField_eq_ok_none read supported
  have related := stands.1
  rw [hasValue] at related
  rcases objectIs : made.1 with _ | object
  · rw [objectIs] at related
    cases related
  · rw [objectIs] at related
    cases related with
    | some isStanding =>
        exact ⟨supportedBefore, value, object, hasValue, rfl, isStanding⟩

/-- The header of a line. -/
theorem follows_parseHeader
    (isIpv6Network : Str → Bool)
    (tokens : HeaderTokens) :
    FollowsPlain (fun header made => made = header.object)
      (Checked.parseHeader isIpv6Network tokens.list)
      (parseHeader tokens) := by
  have noneFirst : none = Option.map RuleReason.code none := rfl
  rw [parseHeader_eq_headerFields]
  simp only [headerFields, Checked.parseHeader, HeaderTokens.list]
  refine (follows_headerField (follows_parseAction _) noneFirst).bind
    fun action madeAction isAction standsAction => ?_
  refine (follows_headerField (follows_parseProtocol _)
    standsAction.2).bind fun protocol madeProtocol isProtocol
      standsProtocol => ?_
  refine (follows_headerField (follows_parseIp isIpv6Network _)
    standsProtocol.2).bind fun srcIp madeSrcIp isSrcIp standsSrcIp => ?_
  refine (follows_headerField (follows_parsePort _) standsSrcIp.2).bind
    fun srcPort madeSrcPort isSrcPort standsSrcPort => ?_
  refine (follows_headerField (follows_parseDirection _)
    standsSrcPort.2).bind fun direction madeDirection isDirection
      standsDirection => ?_
  refine (follows_headerField (follows_parseIp isIpv6Network _)
    standsDirection.2).bind fun dstIp madeDstIp isDstIp standsDstIp => ?_
  refine (follows_headerField (follows_parsePort _) standsDstIp.2).bind
    fun dstPort madeDstPort isDstPort standsDstPort => ?_
  rw [standsDstPort.2]
  cases supported : dstPort.2 with
  | some reason => exact .throw reason
  | none =>
      obtain ⟨supported, _, _, dstPortIs, madeDstPortIs, rfl⟩ :=
        standsDstPort.of_supported isDstPort supported
      obtain ⟨supported, _, _, dstIpIs, madeDstIpIs, rfl⟩ :=
        standsDstIp.of_supported isDstIp supported
      obtain ⟨supported, _, _, directionIs, madeDirectionIs, rfl⟩ :=
        standsDirection.of_supported isDirection supported
      obtain ⟨supported, _, _, srcPortIs, madeSrcPortIs, rfl⟩ :=
        standsSrcPort.of_supported isSrcPort supported
      obtain ⟨supported, _, _, srcIpIs, madeSrcIpIs, rfl⟩ :=
        standsSrcIp.of_supported isSrcIp supported
      obtain ⟨supported, _, _, protocolIs, madeProtocolIs, rfl⟩ :=
        standsProtocol.of_supported isProtocol supported
      obtain ⟨_, _, _, actionIs, madeActionIs, rfl⟩ :=
        standsAction.of_supported isAction supported
      rw [actionIs, protocolIs, srcIpIs, srcPortIs, directionIs, dstIpIs,
        dstPortIs, madeActionIs, madeProtocolIs, madeSrcIpIs,
        madeSrcPortIs, madeDirectionIs, madeDstIpIs, madeDstPortIs]
      exact .pure rfl

end IntrusionDetection
