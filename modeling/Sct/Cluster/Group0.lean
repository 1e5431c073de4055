import Mathlib.Data.List.Nodup

/-!
# Group0 and the token ring

`RaftFeature` of `sdcm/utils/raft/__init__.py`: the search for inconsistent host ids, the check that
reports them and the clean-up. The queries and the commands return.
-/

namespace Sct.Cluster

structure Group0Member where
  hostId : String
  voter : Bool
  deriving DecidableEq, Repr

structure TokenRingMember where
  hostId : Option String
  ipAddress : Option String
  deriving DecidableEq, Repr

/-- What the queries read. The host id is the key of a member in `system.raft_state`. -/
structure Membership where
  group0 : List Group0Member
  tokenRing : List TokenRingMember
  limitedVoters : Bool
  /-- `group0_limited_voters_enabled` of the cluster, which is set once the feature is seen on. -/
  limitedVotersSeen : Bool
  distinct : (group0.map (·.hostId)).Nodup
  seen_on : limitedVotersSeen = true → limitedVoters = true

namespace Membership

variable (membership : Membership)

/-- Both the check and `get_token_ring_members` leave out members with null values. -/
def validTokenRing : List TokenRingMember :=
  membership.tokenRing.filter fun member => member.hostId.isSome && member.ipAddress.isSome

def tokenRingNodeIds : List String := membership.validTokenRing.filterMap (·.hostId)

def getDiffGroup0TokenRingMembers : List String :=
  (membership.group0.map (·.hostId)).filter (· ∉ membership.tokenRingNodeIds)

def getGroup0NonVoters : List Group0Member := membership.group0.filter (!·.voter)

def searchInconsistentHostIds : List String :=
  if membership.getDiffGroup0TokenRingMembers = [] ∧ !membership.limitedVoters then
    membership.getGroup0NonVoters.map (·.hostId)
  else membership.getDiffGroup0TokenRingMembers

inductive ConsistencyEvent where
  /-- A warning: so many members of the token ring have null values. -/
  | filteredOut (count : Nat)
  /-- An error for a member, which the token ring has or not. -/
  | inconsistent (member : Group0Member) (present : Bool)
  deriving DecidableEq, Repr

def brokenHosts : List String :=
  if (∀ member ∈ membership.group0, member.hostId ∈ membership.tokenRingNodeIds) ∧
      ((∀ member ∈ membership.group0, member.voter) ∨
        membership.limitedVotersSeen || membership.limitedVoters) then []
  else membership.searchInconsistentHostIds

def checkGroup0TokenringConsistency : List ConsistencyEvent :=
  let filteredCount := membership.tokenRing.length - membership.validTokenRing.length
  (if 0 < filteredCount then [.filteredOut filteredCount] else []) ++
    (membership.group0.filter fun member => ¬(member.hostId ∈ membership.tokenRingNodeIds ∧
      member.hostId ∉ membership.brokenHosts)).map fun member =>
        .inconsistent member (member.hostId ∈ membership.tokenRingNodeIds)

end Membership

/-- Host ids as a search lists them: a set, in some order, or keys of a table. -/
abbrev HostIds := {ids : List String // ids.Nodup}

/-- A `removenode` command: the host id, those after `--ignore-dead-nodes`, and its result. -/
structure Removal where
  hostId : String
  ignored : List String
  ok : Bool

/-- The loop of `clean_group0_garbage`; `results` are those of the commands to come. -/
def removals (results : Nat → Bool) : (hostIds : List String) → (attempt : Nat) → List Removal
  | [], _ => []
  | removing :: hostIds, attempt =>
    ⟨removing, hostIds, results 0⟩ ::
      if results 0 then removals (fun n => results (n + 1)) hostIds attempt
      else if attempt - 1 < 1 then []
      else removals (fun n => results (n + 1)) (hostIds ++ [removing]) (attempt - 1)
termination_by hostIds attempt => hostIds.length + attempt
decreasing_by all_goals simp; try omega

/-- The commands, and whether it raises. The searches before and after find `hostIds` and
`missingHostIds`. -/
def cleanGroup0Garbage (raiseException : Bool) (hostIds missingHostIds : HostIds)
    (results : Nat → Bool) : List Removal × Bool :=
  (removals results hostIds.val 3, missingHostIds.val ≠ [] && raiseException)

end Sct.Cluster
