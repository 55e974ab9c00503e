import Mathlib.Data.List.AList
import Mathlib.Logic.Function.Iterate
import ZkSettle.Crypto.Poseidon2

/-!
# The trees of the issuer

The membership and jurisdiction trees, which are rehashed from their leaves, and the
sparse tree of sanctioned wallets, whose empty subtrees are hashed once. A `HashMap` is
an association list; nothing depends on its order.
-/
namespace ZkSettle.Crypto

def MERKLE_DEPTH : Nat := 20

inductive CryptoError where
  | indexOutOfBounds (index size : Nat)
  | walletIsSanctioned
  | invalidSmtPathIndices
  | rootMismatch
  deriving DecidableEq, Repr

/-! ## MerkleTree -/

@[ext]
structure MerkleTree where
  leaves : List Fr
  deriving DecidableEq, Repr

def MerkleTree.new : MerkleTree := ⟨[]⟩

def MerkleTree.insert (tree : MerkleTree) (leaf : Fr) : MerkleTree := ⟨tree.leaves ++ [leaf]⟩

def MerkleTree.setLeaf (tree : MerkleTree) (index : Nat) (value : Fr) :
    Except CryptoError MerkleTree :=
  if tree.leaves.length ≤ index then
    .error (.indexOutOfBounds index tree.leaves.length)
  else
    .ok ⟨tree.leaves.set index value⟩

def MerkleTree.zeroLeaf (tree : MerkleTree) (index : Nat) : Except CryptoError MerkleTree :=
  tree.setLeaf index 0

theorem MerkleTree.setLeaf_of_lt {tree : MerkleTree} {index : Nat}
    (below : index < tree.leaves.length) (value : Fr) :
    tree.setLeaf index value = .ok ⟨tree.leaves.set index value⟩ := by
  rw [MerkleTree.setLeaf, if_neg (Nat.not_le_of_lt below)]

/-- The level above: neighbours are hashed in pairs, the last one alone with zero. -/
def nextLevel : List Fr → List Fr
  | left :: right :: rest => poseidon2Hash [left, right] :: nextLevel rest
  | [left] => [poseidon2Hash [left, 0]]
  | [] => []

/-- `compute_root_from_leaves` -/
def MerkleTree.root (tree : MerkleTree) : Fr :=
  if tree.leaves = [] then
    (fun cur => poseidon2Hash [cur, cur])^[MERKLE_DEPTH] 0
  else
    (nextLevel^[MERKLE_DEPTH] tree.leaves).headD 0

/-! ## SparseMerkleTree -/

/-- The low bits of a key, least significant first. -/
def keyBits (key : Fr) : List Bool := (List.range MERKLE_DEPTH).map key.val.testBit

def emptySubtreeHashes (level : Nat) : Fr := (fun cur => poseidon2Hash [cur, cur])^[level] 0

structure SparseMerkleTree where
  leaves : AList fun _ : List Bool => Fr

def SparseMerkleTree.new : SparseMerkleTree := ⟨∅⟩

def SparseMerkleTree.insert (tree : SparseMerkleTree) (wallet : Fr) : SparseMerkleTree :=
  ⟨tree.leaves.insert (keyBits (poseidon2Hash [wallet])) 1⟩

/-- The tree without the wallet, and whether it was in the tree. -/
def SparseMerkleTree.remove (tree : SparseMerkleTree) (wallet : Fr) : SparseMerkleTree × Bool :=
  let bits := keyBits (poseidon2Hash [wallet])
  (⟨tree.leaves.erase bits⟩, (tree.leaves.lookup bits).isSome)

/-- A top-down prefix agrees with the highest of the bits. -/
def hasLeavesUnder (tree : SparseMerkleTree) (path : List Bool) : Bool :=
  tree.leaves.keys.any fun bits =>
    (List.range path.length).all fun i => bits[MERKLE_DEPTH - 1 - i]? == path[i]?

/-- `prefix` is top-down and the bits of a leaf are bottom-up. -/
def SparseMerkleTree.subtreeHashAtLevel (tree : SparseMerkleTree) : Nat → List Bool → Fr
  | 0, path =>
    let bits := List.replicate (MERKLE_DEPTH - path.length) false ++ path.reverse
    (tree.leaves.lookup bits).getD 0
  | level + 1, path =>
    if hasLeavesUnder tree path then
      poseidon2Hash [tree.subtreeHashAtLevel level (path ++ [false]),
        tree.subtreeHashAtLevel level (path ++ [true])]
    else emptySubtreeHashes (level + 1)

def SparseMerkleTree.root (tree : SparseMerkleTree) : Fr := tree.subtreeHashAtLevel MERKLE_DEPTH []

/-! ## Roots of small trees -/

/-- A tree with nothing sanctioned has the root of an empty membership tree. -/
theorem SparseMerkleTree.root_new : SparseMerkleTree.new.root = MerkleTree.new.root := by
  have none_under : ¬ hasLeavesUnder SparseMerkleTree.new [] = true := by decide
  have empty : MerkleTree.new.leaves = [] := rfl
  rw [SparseMerkleTree.root, MERKLE_DEPTH, SparseMerkleTree.subtreeHashAtLevel,
    if_neg none_under, emptySubtreeHashes, MerkleTree.root, if_pos empty, MERKLE_DEPTH]

theorem nextLevel_iterate_singleton (leaf : Fr) (levels : Nat) :
    nextLevel^[levels] [leaf] = [(fun cur => poseidon2Hash [cur, 0])^[levels] leaf] := by
  induction levels generalizing leaf with
  | zero => rfl
  | succ levels ih =>
    rw [Function.iterate_succ_apply, Function.iterate_succ_apply]
    exact ih _

theorem MerkleTree.root_singleton (leaf : Fr) :
    MerkleTree.root ⟨[leaf]⟩ = (fun cur => poseidon2Hash [cur, 0])^[MERKLE_DEPTH] leaf := by
  rw [MerkleTree.root, if_neg (List.cons_ne_nil leaf []), nextLevel_iterate_singleton,
    List.headD_cons]

/-- An iteration follows a table of its values. -/
theorem iterate_of_steps {f : Fr → Fr} {first last : Fr} {steps : List Fr}
    (follows : (first :: steps).IsChain fun a b => f a = b)
    (ends : (first :: steps).getLast? = some last) : f^[steps.length] first = last := by
  induction steps generalizing first with
  | nil => exact Option.some.inj ends
  | cons next rest ih =>
    rw [List.isChain_cons_cons] at follows
    rw [List.length_cons, Function.iterate_succ_apply, follows.1]
    exact ih follows.2 (by simpa using ends)

-- One level at a time: the whole root is too deep for the kernel.

/-- The hashes of the empty subtrees, from the first level up. -/
def emptySteps : List Fr :=
  [5151499478991301833156025595048985053689893395646836724335623777508747990769,
   6425444215191838285069835781607981895589384041954338275956759438530131468944,
   15366428887851194658173001994030115403889500460316803633813719685335613213216,
   16035753591704748209377180686147291356460509756602580601938195381349806255502,
   8144004172175511637373287007127031310278744323254585308703615193240287509983,
   796074195456137668475057404256202455048248910468542119987582633322559749494,
   20567739078944838550556895816409602128127282297589578747131836752205066334747,
   2915761020738377646169465098196184536995852317462848975418156916828302972897,
   10985760690611977917867463287126968335324276333731556907069004868774077204850,
   19208047717975195819992968481289292904158208618635067144381052124352153142918,
   6873111190261103763395069460662520014470628472871405490586772273844549690535,
   5894139036143562089612233756205231544611692010506775540918923829608719739507,
   12794319561613039897672261721253788651586435024857268094532550402122135778769,
   720777601321551456724742356376872832235514487302799006897322578639686749258,
   19726607866286112953874979389205149577323021278529259017954198462517737418473,
   9477901871732605408863140319391985875503693577321165842544029785283526188723,
   3218243980816964110015535469652973420290887819006413761652914020854170460131,
   21647471328696313483506044180817939310547082363167430262013183074005768690677,
   14513543603428597604998785424833526732416414663942895493375066920249255152069,
   12912536786691007423957206067517486813236154886763950786309034005218474477397]

private def zeroSteps : List Fr :=
  [5151499478991301833156025595048985053689893395646836724335623777508747990769,
   17463537656140341473826291213337470223213394063285626441472666425029055241524,
   2256910847289547076856719773164864400187763141184887695778836809041128730807,
   1088245306496891736480479238854411717682655977115122900648625220369346708864,
   20111685544545780410514175706360859558677003971347764895592934286417778452163,
   21200785166423016538166654277112573595729657771608399069965605138809698275384,
   2309441971554490310947812588268320753346063565970828029164208570330875121826,
   9551791961383350399703730832027504973160850039818922348012231189263980301174,
   9473135051430944784529914064815509774538549608170890209292093063603629130774,
   964584749152025648529888536247207068792131588090418696223590301601621567590,
   20380010067015843702501628008482254998326942241906463915218047054838125096525,
   21597620249658512577473126129408254902767697164234359588815725147442786498654,
   15647722414973055476893067788006845217217028345374622274581595086406103523772,
   17633683008579753928731399002176021942397422949937247617813240363945510659215,
   9739412710734046466744891219835076698261548284187216509336366692630688933121,
   6135873151347885630742458986844996030162795632925684035029947529977288315183,
   21232856784747983471872274474480524658642986431086726445948816289274052752054,
   19000593305338086850340472868360567311858171732227119097390130142955643831573,
   18863473389142940513027605863196760704310896716120677155463212292313768302746,
   11551823171194756256342706149897787709869953341096281269916553184740321121649]

private def oneSteps : List Fr :=
  [19655905145694250114305494590740673378615028697465514710026573196096623135846,
   8090300762616479924251278950818829769444263876072126255561399725890547414062,
   1337389993941225331222794961206745412039359792507426566576670357936133804704,
   17925490053598091702161526726154832147197159369649659253150073139131062257802,
   14481228948862412867747949430542312120919127527063311524503504569209570064668,
   10096252513836792409613963934844657457210700561373070114660589094421069565689,
   6465565531812686859466122077535870141960490210953751518793494775377685629481,
   10765956492817832670543034481387410960096347606814709674609202545128623201109,
   5867237421596684768146133385624653114622177306303863428703566905546811843522,
   9404096871782252433256057643464107403110425834578176612801784529437291460247,
   19708424384298312579224979004857373512530360267906654432046153761313996043972,
   16291556445453681817876245679135398351389009316650988590778163329557064057090,
   11517640612413289741468002657064486717053675214586161150379956888682646786056,
   3991082809464045541415235131674992730169007353464690775654377488566196461271,
   1888257624777725452545548175381547998240629153177779237490092398045397445432,
   7013745949533131939016206504304889533671934517161466002909755269206785345471,
   11148349356972522670513262052997942918518143644817179561304360805663306576982,
   2033806873783733230760531533861922896852160187068467999547927742340578113014,
   8784615570370381489329258555352339387713496826960185126144018078204738120901,
   1825054090217402090973321347817467317538187810591320249195554625170260743889]

private def pairSteps : List Fr :=
  [7192627342214658108626447430675892421714567261691389299146713728025771293870,
   6809826512629083155762534042430339649923873110985539860532161075796562985709,
   8717500103670169208904756483521681637845756634896675146277304040182041894555,
   731946449049757839985519526317597658946540679626997052212010472659171303612,
   6159683968223427752513436999323656146103578035588494738306096049764496771873,
   4914807102027143010947177949259208072626025674109948182144643748556644018161,
   226082473153783425385437332236723765820541381166044029302998945648441613230,
   12463191721731056901847590769021103381460116023027597878189589646934795387185,
   583663562793960058414716512507494543342403112783800049126735486113747838129,
   2456326326274544051130630177309917471546020437102727194984223096644756487671,
   18758697316298228457440186997656565106643667283040637570391258321411524404670,
   18581208868723768021824644612077586251551688273964276284117480956548893763991,
   8358800254445657716626223407651760568841481798735631239946943317279937197206,
   3475475902498633468583872255949099486965781120649307010141241382139608917065,
   15069307694588253832075116825898193459364639418900416184640783245182274088544,
   14282746374058635540114871345348764323199144978832036530216119301679923857054,
   13852949635656862507653825382803540140654657045435869726700428991478897082123,
   4326937570935217760495638303274384367877328374886380273411074306447654825613,
   6874842858710853545697669730169242251485006990963820214616464782151365981820]

theorem emptySteps_follow :
    (0 :: emptySteps).IsChain fun cur next => poseidon2Hash [cur, cur] = next := by
  decide +kernel

theorem MerkleTree.root_new : MerkleTree.new.root =
    12912536786691007423957206067517486813236154886763950786309034005218474477397 := by
  have empty : MerkleTree.new.leaves = [] := rfl
  have depth : MERKLE_DEPTH = emptySteps.length := rfl
  rw [MerkleTree.root, if_pos empty, depth]
  exact iterate_of_steps emptySteps_follow rfl

theorem MerkleTree.root_zero : MerkleTree.root ⟨[0]⟩ =
    11551823171194756256342706149897787709869953341096281269916553184740321121649 := by
  have depth : MERKLE_DEPTH = zeroSteps.length := rfl
  rw [MerkleTree.root_singleton, depth]
  exact iterate_of_steps (by decide +kernel) rfl

theorem MerkleTree.root_one : MerkleTree.root ⟨[poseidon2Hash [1]]⟩ =
    1825054090217402090973321347817467317538187810591320249195554625170260743889 := by
  have leaf : poseidon2Hash [1] =
      10190015755989328289879378487807721086446093622177241109507523918927702106995 := by
    decide +kernel
  have depth : MERKLE_DEPTH = oneSteps.length := rfl
  rw [MerkleTree.root_singleton, leaf, depth]
  exact iterate_of_steps (by decide +kernel) rfl

theorem MerkleTree.root_pair (left right : Fr) : MerkleTree.root ⟨[left, right]⟩ =
    (fun cur => poseidon2Hash [cur, 0])^[19] (poseidon2Hash [left, right]) := by
  rw [MerkleTree.root, if_neg (List.cons_ne_nil left [right]), MERKLE_DEPTH,
    Function.iterate_succ_apply, nextLevel, nextLevel, nextLevel_iterate_singleton, List.headD_cons]

theorem MerkleTree.root_oneTwo : MerkleTree.root ⟨[poseidon2Hash [1], poseidon2Hash [2]]⟩ =
    6874842858710853545697669730169242251485006990963820214616464782151365981820 := by
  have leaves : poseidon2Hash [poseidon2Hash [1], poseidon2Hash [2]] =
      6391553130430631875739180036477862291376543253281553515681432683054636625769 := by
    decide +kernel
  have depth : 19 = pairSteps.length := rfl
  rw [MerkleTree.root_pair, leaves, depth]
  exact iterate_of_steps (by decide +kernel) rfl

end ZkSettle.Crypto
