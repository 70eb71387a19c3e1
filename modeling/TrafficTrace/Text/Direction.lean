import TrafficTrace.Text.RunTable

/-! The direction in which characters are written. A character that no name can hold counts as the one
before it. -/
namespace TrafficTrace.Text

inductive Direction where
  | leftToRight
  | rightToLeft
  | europeanNumber
  | arabicNumber
  /-- A mark, which goes with the character before it. -/
  | mark
  | neutral
deriving DecidableEq, Repr

def directions : RunTable := RunTable.ofLines [
  "O48En10O7L26O6L26O93L31OL440O11L7O14L2O28LO17M112L4O2L126O3L140M7L256O6M46RMRM2RM2RMR45O19R",
  "O2RORO2M11R48M21An10OAn2R3MR101M7O2M6R2M2OM4R2En10R23MR30M27R91M11R58M9R2O4RM3R24M4RM9RM3RM5",
  "R43M3R52M16R42M57L55MLML4M8L4ML3M7L10M2L29ML56M3L4M4L8ML20M2L14O2L7OL2M5L55M3L4M17L30M2L3ML",
  "M12L55M3L4M8L4ML20M2L13OL8M8L56M3L2MLM4L8M10L11M2L20M11L61ML12ML37O8M6L3ML53M3LM3L4M18L11M2",
  "L20O7L2ML56M3L15M2L20M2L16M14L57M2L4M4L8ML20M2L28M2L69M4L7M5L90MLM8O5L7M8L98MLM10L10M8L73M2",
  "L27MLMLMO4L47M18LM5LM2L5M48L9ML102M4LM6LM2L2M2L25M2L4M3L16M4L13ML2M2L6ML15ML701M5L48O10L92",
  "O11L666O2L117M3L29M2L30M2L29M3L67M7L8ML2M11L7OLML12O33L122M2L34ML117M4L4M2L9ML6M3O10L149O37",
  "L23M2L2ML58MLM9LML2M8L6M13L46M86L48MLM5LML5ML40M9L12M2L32M4L2M2LM3L56MLM2L3MLM3L58M8L2M2L144",
  "M11LM13LM7L4ML6ML3M2L161M101L503O203M47O93L59O429L69O26LO790LO339L256O768L229O6L4M3L2O12L113",
  "M15L95M33O517L3O25L9M4L2OL5O2L5O3L87M4L4O2L90OL196O38L7130O64L22157O58L326O3L95M4OM10O2L28M4",
  "L80M2L6O42L102OL121ML3ML4ML25M2LO4ML11O2L58O4L76M2L20M24L13ML38M8L25M11L43M6L48ML2M4L2M2L39M",
  "L67M6L2M2L2M2L12ML8ML47ML51MLM3L2M2L5M2LML42M2L8ML114O3L121ML2ML4ML20028M245R164O573M48O23",
  "R45L653OL62O77L2O18L92ML211M16En27L122M5L1030R411O4R225M15R38M10R165M2R79O10R484M4An34R6M30O",
  "R33An239R43M3R27O17M39R70M11R49M4R113L10ML54M15L7O24L10ML2M2LM12L49M4L2M2L7ML55M9L36M5LM8L62",
  "ML3M11L52M9L10M4L2ML95M3L2MLM2L6ML2ML157ML3M8L15M8L56M3L3ML35M17L70M6L13MLMLML6M10L85M8L2M3L",
  "ML23ML84M6LML4M2LM2L238M4L6M2LM2L27M2L85M8L2MLM2L25O19L62MLML2M6LML99M3LML2M4LM5L259M9LM2",
  "L254M4LML4ML144M8L4ML32M6L2M2L40M6L2M4L8ML9M6L2M3L46M13LM2L112M87LM3LML201M14L82M24L2M7LM2L",
  "M2L122M21LML71M3L3MLML347M2L4M9L52M5L5MLML23ML122O29L5182M17L6M15L11464M12L3M3L2494M7L59M7",
  "L1044M5L56M11L79OLML19640M2LO4689M86L544M3L9M16L2M7L30M4L59O89M3OL174O99L1705M55L4M50L8ML14M",
  "L7M36L1147M357L157M10L375ML61M4L10O6L492M4L254M2L243ML2ML7M2L5ML265R209M7R109M7R1011O1010L58",
  "O6L61OL82O2555L984069"]

def direction (c : Char) : Direction :=
  match directions.label c.toNat with
  | "L" => .leftToRight
  | "R" => .rightToLeft
  | "En" => .europeanNumber
  | "An" => .arabicNumber
  | "M" => .mark
  | _ => .neutral

end TrafficTrace.Text
