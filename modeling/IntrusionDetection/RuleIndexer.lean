import IntrusionDetection.RuleRepository
import Mathlib.Data.List.Sort

namespace IntrusionDetection

open PyText

/-!
# Rule indexer

The index picks the candidate rules of a packet from its protocol and its
destination port: three port buckets a protocol, and a rule that works either
way is filed under both of its ports.
-/

/-- `_port_in`. -/
def portIn (spec : PortSpec) (port : Int) : Bool :=
  spec.lo ≤ port ∧ port ≤ spec.hi

/--
The rules of one protocol, by how their port is written.  A rule is named by
its order number; `exact` pairs single ports with order numbers.
-/
structure Bucket where
  exact : List (Int × Nat)
  ranges : List (Int × Int × Nat)
  anyPort : List Nat

namespace Bucket

/-- An empty bucket. -/
def empty : Bucket where
  exact := []
  ranges := []
  anyPort := []

/-- `register`. -/
def register (bucket : Bucket) (port : PortSpec) (order : Nat) : Bucket :=
  if port.isAny then
    { bucket with anyPort := bucket.anyPort ++ [order] }
  else if port.lo = port.hi then
    { bucket with exact := bucket.exact ++ [(port.lo, order)] }
  else
    { bucket with ranges := bucket.ranges ++ [(port.lo, port.hi, order)] }

/-- `collect`: the order numbers filed under a port. -/
def collect (bucket : Bucket) (port : Int) : List Nat :=
  (bucket.exact.filter fun item => item.1 = port).map (·.2) ++
    (bucket.ranges.filter fun item =>
      item.1 ≤ port ∧ port ≤ item.2.1).map (·.2.2) ++
    bucket.anyPort

/-- What is collected under a port. -/
theorem mem_collect
    {bucket : Bucket}
    {port : Int}
    {order : Nat} :
    order ∈ bucket.collect port ↔
      (port, order) ∈ bucket.exact ∨
        (∃ lo hi,
          (lo, hi, order) ∈ bucket.ranges ∧ lo ≤ port ∧ port ≤ hi) ∨
        order ∈ bucket.anyPort := by
  simp [collect]

@[simp] theorem collect_empty (port : Int) :
    empty.collect port = [] :=
  rfl

/-- A registered rule is collected exactly for the ports of its range. -/
theorem mem_collect_register
    {bucket : Bucket}
    {spec : PortSpec}
    {order other : Nat}
    {port : Int}
    (valid : 0 ≤ port ∧ port ≤ portMax) :
    other ∈ (bucket.register spec order).collect port ↔
      other ∈ bucket.collect port ∨
        (other = order ∧ portIn spec port = true) := by
  simp only [register, portIn, decide_eq_true_eq]
  split <;> rename_i isAny
  · simp only [PortSpec.isAny, decide_eq_true_eq] at isAny
    simp only [mem_collect, List.mem_append, List.mem_singleton]
    grind
  · split <;> rename_i single
    · simp only [mem_collect, List.mem_append, List.mem_singleton,
        Prod.mk.injEq]
      grind
    · simp only [mem_collect, List.mem_append, List.mem_singleton,
        Prod.mk.injEq]
      constructor
      · rintro (exactly | ⟨lo, hi, old | ⟨rfl, rfl, rfl⟩, inside⟩ | all)
        · exact Or.inl (Or.inl exactly)
        · exact Or.inl (Or.inr (Or.inl ⟨lo, hi, old, inside⟩))
        · exact Or.inr ⟨rfl, inside⟩
        · exact Or.inl (Or.inr (Or.inr all))
      · rintro ((exactly | ⟨lo, hi, old, inside⟩ | all) | ⟨rfl, inside⟩)
        · exact Or.inl exactly
        · exact Or.inr (Or.inl ⟨lo, hi, Or.inl old, inside⟩)
        · exact Or.inr (Or.inr all)
        · exact Or.inr
            (Or.inl ⟨_, _, Or.inr ⟨rfl, rfl, rfl⟩, inside⟩)

end Bucket

/-- `_buckets`: one bucket for each protocol. -/
structure Buckets where
  tcp : Bucket
  udp : Bucket
  ip : Bucket

namespace Buckets

/-- Three empty buckets. -/
def empty : Buckets where
  tcp := .empty
  udp := .empty
  ip := .empty

/-- The bucket of a protocol. -/
def get (buckets : Buckets) : RuleProtocol → Bucket
  | .tcp => buckets.tcp
  | .udp => buckets.udp
  | .ip => buckets.ip

/-- Replace the bucket of a protocol. -/
def set (buckets : Buckets) (protocol : RuleProtocol) (bucket : Bucket) :
    Buckets :=
  match protocol with
  | .tcp => { buckets with tcp := bucket }
  | .udp => { buckets with udp := bucket }
  | .ip => { buckets with ip := bucket }

@[simp] theorem get_empty (protocol : RuleProtocol) :
    empty.get protocol = .empty := by
  cases protocol <;> rfl

/-- Replacing one bucket leaves the others alone. -/
theorem get_set
    (buckets : Buckets)
    (protocol other : RuleProtocol)
    (bucket : Bucket) :
    (buckets.set protocol bucket).get other =
      if other = protocol then bucket else buckets.get other := by
  cases protocol <;> cases other <;> rfl

/-- The loop body of `RuleIndexer.__init__`: file one rule. -/
def file (buckets : Buckets) (rule : Rule) (order : Nat) : Buckets :=
  let bucket :=
    (buckets.get rule.protocol).register rule.dstPort order
  buckets.set rule.protocol
    (if rule.direction = .bothWays then
      bucket.register rule.srcPort order
    else
      bucket)

end Buckets

/-- The index: the rules in order, and where they are filed. -/
structure RuleIndexer where
  rules : List Rule
  buckets : Buckets

namespace RuleIndexer

/-- The index of the rules of a repository. -/
def build (repository : RuleRepository) : RuleIndexer where
  rules := repository.rules
  buckets :=
    repository.rules.zipIdx.foldl
      (fun buckets item => buckets.file item.1 item.2) .empty

/-- `RuleIndexer(repository)`: only a frozen repository is indexed. -/
def create (repository : RuleRepository) :
    Except PyException RuleIndexer :=
  if repository.frozen then
    .ok (build repository)
  else
    .error {
      typeName := lit "ValueError"
      message := lit
        "RuleIndexer needs a frozen RuleRepository; call freeze() first" }

/-- The protocol a packet's protocol text names. -/
def protocolNamed? (protocol : Option Str) : Option RuleProtocol :=
  match protocol with
  | none => none
  | some text =>
      let name := lower text
      if name = lit "tcp" then some .tcp
      else if name = lit "udp" then some .udp
      else if name = lit "ip" then some .ip
      else none

/-- The order numbers collected for a packet. -/
def collected
    (indexer : RuleIndexer)
    (protocol : RuleProtocol)
    (port : Int) :
    List Nat :=
  let own := (indexer.buckets.get protocol).collect port
  if protocol = .ip then own
  else own ++ indexer.buckets.ip.collect port

/-- The collected order numbers, each once and in order. -/
def orders
    (indexer : RuleIndexer)
    (protocol : RuleProtocol)
    (port : Int) :
    List Nat :=
  (indexer.collected protocol port).dedup.insertionSort (· ≤ ·)

/-- `candidates`. -/
def candidates
    (indexer : RuleIndexer)
    (protocol : Option Str)
    (dstPort : Option Int) :
    List Rule :=
  match protocolNamed? protocol, dstPort with
  | some named, some port =>
      if 0 ≤ port ∧ port ≤ portMax then
        (indexer.orders named port).filterMap (indexer.rules[·]?)
      else
        []
  | _, _ => []

/-! ### The candidates are a scan of the rules -/

/-- Does the index file a rule under a protocol and a port? -/
def files (rule : Rule) (protocol : RuleProtocol) (port : Int) : Bool :=
  rule.protocol = protocol ∧
    (portIn rule.dstPort port = true ∨
      rule.direction = .bothWays ∧ portIn rule.srcPort port = true)

/-- Filing one rule adds its order number where the rule is filed. -/
theorem mem_collect_file
    {buckets : Buckets}
    {rule : Rule}
    {order other : Nat}
    {protocol : RuleProtocol}
    {port : Int}
    (valid : 0 ≤ port ∧ port ≤ portMax) :
    other ∈ ((buckets.file rule order).get protocol).collect port ↔
      other ∈ (buckets.get protocol).collect port ∨
        (other = order ∧ files rule protocol port = true) := by
  simp only [Buckets.file, Buckets.get_set, files, decide_eq_true_eq]
  split <;> rename_i same
  · subst same
    split <;> rename_i bothWays
    · rw [Bucket.mem_collect_register valid,
        Bucket.mem_collect_register valid]
      simp only [bothWays, true_and]
      tauto
    · rw [Bucket.mem_collect_register valid]
      simp only [bothWays, false_and, or_false, true_and]
  · have other : rule.protocol ≠ protocol := fun eq => same eq.symm
    simp [other]

/-- The order numbers collected from the filed rules of a list. -/
theorem mem_collect_foldl
    {buckets : Buckets}
    {rules : List (Rule × Nat)}
    {order : Nat}
    {protocol : RuleProtocol}
    {port : Int}
    (valid : 0 ≤ port ∧ port ≤ portMax) :
    order ∈
        ((rules.foldl (fun buckets item => buckets.file item.1 item.2)
          buckets).get protocol).collect port ↔
      order ∈ (buckets.get protocol).collect port ∨
        ∃ rule, (rule, order) ∈ rules ∧
          files rule protocol port = true := by
  induction rules generalizing buckets with
  | nil =>
      simp
  | cons item rest inductionHypothesis =>
      obtain ⟨rule, number⟩ := item
      simp only [List.foldl_cons]
      rw [inductionHypothesis, mem_collect_file valid]
      simp only [List.mem_cons, Prod.mk.injEq]
      constructor
      · rintro ((old | ⟨rfl, filed⟩) | ⟨later, member, filed⟩)
        · exact Or.inl old
        · exact Or.inr ⟨rule, Or.inl ⟨rfl, rfl⟩, filed⟩
        · exact Or.inr ⟨later, Or.inr member, filed⟩
      · rintro (old | ⟨found, ⟨rfl, rfl⟩ | member, filed⟩)
        · exact Or.inl (Or.inl old)
        · exact Or.inl (Or.inr ⟨rfl, filed⟩)
        · exact Or.inr ⟨found, member, filed⟩

/-- The rules an index returns for a packet, by a scan. -/
def isCandidate
    (rule : Rule)
    (protocol : RuleProtocol)
    (port : Int) :
    Bool :=
  files rule protocol port || files rule .ip port

/-- Which order numbers are collected for a packet. -/
theorem mem_orders
    {repository : RuleRepository}
    {protocol : RuleProtocol}
    {port : Int}
    {order : Nat}
    (valid : 0 ≤ port ∧ port ≤ portMax) :
    order ∈ (build repository).orders protocol port ↔
      ∃ rule, repository.rules[order]? = some rule ∧
        isCandidate rule protocol port = true := by
  have collected :
      ∀ named,
        order ∈ ((build repository).buckets.get named).collect port ↔
          ∃ rule, repository.rules[order]? = some rule ∧
            files rule named port = true := by
    intro named
    simp only [build]
    rw [mem_collect_foldl valid]
    simp [List.mem_zipIdx_iff_getElem?]
  have ip := collected .ip
  simp only [Buckets.get] at ip
  simp only [orders, List.mem_insertionSort, List.mem_dedup,
    RuleIndexer.collected, isCandidate, Bool.or_eq_true]
  split <;> rename_i isIp
  · subst isIp
    simp only [or_self]
    exact collected .ip
  · rw [List.mem_append, collected, ip]
    constructor
    · rintro (⟨rule, found, filed⟩ | ⟨rule, found, filed⟩)
      · exact ⟨rule, found, Or.inl filed⟩
      · exact ⟨rule, found, Or.inr filed⟩
    · rintro ⟨rule, found, filed | filed⟩
      · exact Or.inl ⟨rule, found, filed⟩
      · exact Or.inr ⟨rule, found, filed⟩

/-- Picking every position of a list in order gives the list. -/
theorem filterMap_range_getElem?
    {Element : Type}
    (elements : List Element) :
    (List.range elements.length).filterMap (elements[·]?) = elements := by
  induction elements with
  | nil =>
      rfl
  | cons element rest inductionHypothesis =>
      rw [List.length_cons, List.range_succ_eq_map]
      simpa [List.filterMap_map, Function.comp_def]
        using inductionHypothesis

/-- Picking selected positions in increasing order is filtering. -/
theorem filterMap_getElem?_of_sorted
    {Element : Type}
    {elements : List Element}
    {selected : Element → Bool}
    {positions : List Nat}
    (sorted : positions.Pairwise (· < ·))
    (covers :
      ∀ position,
        position ∈ positions ↔
          ∃ element, elements[position]? = some element ∧
            selected element = true) :
    positions.filterMap (elements[·]?) = elements.filter selected := by
  let wanted (position : Nat) : Bool := elements[position]?.any selected
  have samePositions :
      positions = (List.range elements.length).filter wanted := by
    refine List.Pairwise.eq_of_mem_iff sorted
      (List.pairwise_lt_range.filter _) ?_
    intro position
    rw [covers, List.mem_filter, List.mem_range]
    constructor
    · rintro ⟨element, found, isSelected⟩
      refine ⟨(List.getElem?_eq_some_iff.mp found).1, ?_⟩
      simp [wanted, found, isSelected]
    · rintro ⟨_, isWanted⟩
      simpa [wanted, Option.any_eq_true] using isWanted
  calc
    positions.filterMap (elements[·]?)
      = (List.range elements.length).filterMap
          (fun position => (elements[position]?).filter selected) := by
        rw [samePositions, List.filterMap_filter]
        congr 1
        funext position
        cases found : elements[position]? with
        | none =>
            simp [wanted, found]
        | some element =>
            simp [wanted, found, Option.filter]
    _ = elements.filter selected := by
        rw [← List.filter_filterMap, filterMap_range_getElem?]

/-- The collected order numbers are strictly increasing. -/
theorem orders_sorted
    (indexer : RuleIndexer)
    (protocol : RuleProtocol)
    (port : Int) :
    (indexer.orders protocol port).Pairwise (· < ·) := by
  have sorted := List.pairwise_insertionSort (· ≤ ·)
    (collected indexer protocol port).dedup
  have distinct :
      (orders indexer protocol port).Nodup :=
    (List.perm_insertionSort (· ≤ ·) _).nodup_iff.mpr
      (List.nodup_dedup _)
  exact (sorted.and distinct).imp fun ordered =>
    lt_of_le_of_ne ordered.1 ordered.2

/--
The candidates of a packet are the rules the index files under its protocol or
under `ip`, in repository order.
-/
theorem candidates_eq_filter
    (repository : RuleRepository)
    {protocol : Option Str}
    {named : RuleProtocol}
    {port : Int}
    (isNamed : protocolNamed? protocol = some named)
    (valid : 0 ≤ port ∧ port ≤ portMax) :
    (build repository).candidates protocol (some port) =
      repository.rules.filter fun rule => isCandidate rule named port := by
  simp only [candidates, isNamed, if_pos valid]
  exact filterMap_getElem?_of_sorted (orders_sorted _ _ _)
    fun order => mem_orders valid

/-- Does a rule work for a packet of this protocol to this port? -/
def worksFor (rule : Rule) (protocol : RuleProtocol) (port : Int) : Bool :=
  (rule.protocol = protocol ∨ rule.protocol = .ip) ∧
    (portIn rule.dstPort port = true ∨
      rule.direction = .bothWays ∧ portIn rule.srcPort port = true)

/-- A rule is filed where it works. -/
theorem isCandidate_eq_worksFor
    (rule : Rule)
    (protocol : RuleProtocol)
    (port : Int) :
    isCandidate rule protocol port = worksFor rule protocol port := by
  rw [Bool.eq_iff_iff]
  simp only [isCandidate, files, worksFor, Bool.or_eq_true,
    decide_eq_true_eq]
  tauto

/-- A protocol is found under its name in any letter case. -/
theorem protocolNamed?_of_lower
    {name : Str}
    {protocol : RuleProtocol}
    (spelled : lower name = protocol.name) :
    protocolNamed? (some name) = some protocol := by
  simp only [protocolNamed?, spelled]
  cases protocol <;> decide

/--
The index of a frozen repository returns, for a protocol in any letter case and
a port, exactly the rules that work for them, each once and in repository
order.
-/
theorem candidates_exact
    (repository : RuleRepository)
    (frozen : repository.frozen = true)
    (protocol : RuleProtocol)
    (name : Str)
    (spelled : lower name = protocol.name)
    (port : Int)
    (valid : 0 ≤ port ∧ port ≤ 65535) :
    ∃ indexer,
      create repository = .ok indexer ∧
        indexer.candidates (some name) (some port) =
          repository.rules.filter
            (fun rule => worksFor rule protocol port) ∧
        (indexer.candidates (some name) (some port)).Nodup := by
  have scanned :
      (build repository).candidates (some name) (some port) =
        repository.rules.filter
          (fun rule => worksFor rule protocol port) := by
    rw [candidates_eq_filter repository (protocolNamed?_of_lower spelled)
      valid]
    exact List.filter_congr
      fun rule _ => isCandidate_eq_worksFor rule protocol port
  refine ⟨build repository, if_pos frozen, scanned, ?_⟩
  rw [scanned]
  exact (List.Nodup.of_map Rule.sid repository.sidsNodup).filter _

/-- `alert ip any 53 <> any :1024`, filed under a port and under a range. -/
def dnsRule : Rule where
  protocol := .ip
  srcIp := ⟨true, 0, 0⟩
  srcPort := ⟨53, 53, by decide⟩
  direction := .bothWays
  dstIp := ⟨true, 0, 0⟩
  dstPort := ⟨0, 1024, by decide⟩
  msg := lit "DNS"
  sid := 2
  rev := 1
  classtype := none
  priority := some 2
  contents := []
  flow := none
  flags := none
  dsize := none
  passiveOptions := []
  sourceFile := lit "local.rules"
  lineNo := 1
  raw := lit "alert ip any 53 <> any :1024 (...)"
  priorityPositive := by simp

/-- A rule that is filed twice is a candidate once. -/
theorem candidates_dnsRule :
    let repository : RuleRepository :=
      { rules := [dnsRule], frozen := true, sidsNodup := by simp }
    ∃ indexer,
      create repository = .ok indexer ∧
        indexer.candidates (some (lit "uDp")) (some 53) =
          repository.rules.filter (fun rule => worksFor rule .udp 53) ∧
        (indexer.candidates (some (lit "uDp")) (some 53)).Nodup :=
  candidates_exact _ rfl .udp (lit "uDp") (by decide) 53 (by decide)

end RuleIndexer

end IntrusionDetection
