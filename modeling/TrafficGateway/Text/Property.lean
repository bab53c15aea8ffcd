import TrafficGateway.Text.Runs

/-!
# Binary properties of characters

Properties that a code point has or has not.

## Main definitions

* `CharProperty`: the properties.
* `CharProperty.holds`: does a code point have the property?
* `CharProperty.ofName?`: the property with a name.
-/

namespace TrafficGateway

/-- A property that a code point has or has not. -/
inductive CharProperty where
  | alphabetic
  | lowercase
  | uppercase
  | whiteSpace
  | cased
  | dash
  | diacritic
  | emoji
  | extender
  | hexDigit
  | asciiHexDigit
  | idStart
  | idContinue
  | xidStart
  | xidContinue
  | ideographic
  | joinControl
  | math
  | noncharacter
  | patternWhiteSpace
  | quotationMark
  | radical
  | regionalIndicator
  | softDotted
  | unifiedIdeograph
  | variationSelector
  deriving DecidableEq, Repr, Inhabited

namespace CharProperty

/-- The runs of a text in which `Y` labels the code points with the property and `N` the others. -/
def tableOf (text : String) : Array (Run Bool) :=
  Run.table (· == "Y") text

/-- The code points with the property `alphabetic`. -/
def alphabeticRuns : Array (Run Bool) :=
  tableOf <|
    "N65Y26N6Y26N47YN10YN4YN5Y23NY31NY458N4Y12N14Y5N7YNYN86YN29Y18NY2N2Y4NYN6YNY3NYNY20NY83N" ++
    "Y139N8Y166NY38N2YN6Y41N39Y14NYNY2NY2NYN8Y27N4Y4N29Y11N5Y56NY7N14Y102NY8N4Y8N4Y3N10Y3N2YN16" ++
    "Y48N13Y101N24Y33N9Y2N4YN5Y24N2Y19N19Y25N7Y11N5Y24NY7N7YN8Y42N10Y12N3Y7N6Y76NY16NY3N4Y15N13" ++
    "Y19NY8N2Y2N2Y22NY7NYN3Y4N3Y8N2Y2N2Y2NYN8YN4Y2NY5N12Y2N10YN4Y3NY6N4Y2N2Y22NY7NY2NY2NY2N4Y5" ++
    "N4Y2N2Y2N4YN7Y4NYN17Y6N11Y3NY9NY3NY22NY7NY2NY5N3Y9NY3NY2N3YN15Y4N21Y4N4Y3NY8N2Y2N2Y22NY7N" ++
    "Y2NY5N3Y8N2Y2N2Y2N9Y2N4Y2NY5N13YN16Y2NY6N3Y3NY4N3Y2NYNY2N3Y2N3Y3N3Y12N4Y5N3Y3NY3N3YN6YN40" ++
    "Y13NY3NY23NY16N3Y8NY3NY3N8Y2NY3NY2N2Y4N28Y4NY8NY3NY23NY10NY5N3Y8NY3NY3N8Y2N5Y3NY4N13Y3N12" ++
    "Y13NY3NY41N2Y8NY3NY3NYN5Y4N7Y5N22Y6NY3NY18N3Y24NY9NYN2Y7N8Y6NYNY8N18Y2N13Y58N5Y7N6YN51Y2NY" ++
    "NY5NY24NYNY19NY3N2Y5NYN6YN14Y4N32YN63Y8NY36N4Y19N4Y16NY36N67Y55NYN2Y5N16Y64N10Y4N2Y38NYN5Y" ++
    "N2Y43NY333NY4N2Y7NYNY4N2Y41NY4N2Y33NY4N2Y7NYNY4N2Y15NY57NY4N2Y67N37Y16N16Y86N2Y6N3Y620N2" ++
    "Y17NY26N5Y75N3Y11N7Y20N11Y21N12Y20N12Y13NY3NY2N12Y52N2Y19N14YN4YN67Y89N7Y43N5Y70N10Y31NY12" ++
    "N4Y9N23Y30N2Y5N11Y44N4Y26N54Y28N4Y63N2Y20N50YN23Y2N11Y3N49Y52NY15NY8N51Y42N2Y4N10Y44NY11" ++
    "N14Y55N22Y3N10Y36N2Y11N5Y43N2Y3N41Y4NY6NY2N3YN5Y192N19Y34N11Y278N2Y6N2Y38N2Y6N2Y8NYNYNYN" ++
    "Y31N2Y53NY7NYN3Y3NY7N3Y4N2Y6N4Y13N5Y3NY7N116YN13YN16Y13N101YN4YN2Y10NYN3Y5N6YNYNYNY4NY11N2" ++
    "Y4N5Y5N4YN17Y41N813Y52N1814Y229N6Y4N3Y2N12Y38NYN5YN2Y56N7YN16Y23N9Y7NY7NY7NY7NY7NY7NY7NY7N" ++
    "Y32N47YN469Y3N25Y9N7Y5N2Y5N4Y86N6Y3NY90NY4N5Y43NY94N17Y32N48Y16N512Y6592N64Y22157N67Y46N2" ++
    "Y269N3Y16N10Y2N20Y47N5Y8N3Y113N39Y9N2Y103N2Y82N20Y21NY33N24Y52N12Y68NYN44Y6N3YNY3N10Y33N5" ++
    "Y35N13Y29N3Y51NY12N15YN16Y16N10Y5NY55N9Y14N18Y23N3Y69NYNYN24Y3N2Y16N2Y4N11Y6N2Y6N2Y6N9Y7N" ++
    "Y7NY43NY14N6Y123N21Y11172N12Y23N4Y49N8452Y366N2Y106N38Y7N12Y5N5Y12NY13NY5NYNY2NY2NY108N33" ++
    "Y363N18Y64N2Y54N40Y12N116Y5NY135N36Y26N6Y26N11Y89N3Y6N2Y6N2Y6N2Y3N35Y12NY26NY19NY2NY15N2" ++
    "Y14N34Y123N69Y53N267Y29N3Y49N47Y32N13Y30N5Y43N5Y30N2Y36N4Y8NY5N42Y158N18Y36N4Y36N4Y40N8Y52" ++
    "N12Y11NY15NY7NY2NY11NY15NY7NY2N3Y52N12Y311N9Y22N10Y8N24Y6NY42NY9N69Y6N2YNY44NY2N3YN2Y23N10" ++
    "Y23N9Y31N65Y19NY2N10Y22N10Y26N6Y26N38Y56N6Y2N64Y4NY2N5Y8NY3NY29N42Y29N3Y29N35Y8NY28N27Y54" ++
    "N10Y22N10Y19N13Y18N110Y73N55Y51N13Y51N13Y40N34Y28N3YN5Y23N250Y42NY2N3Y2N16Y6N50Y3N3Y29N10Y" ++
    "N8Y22N42Y18N46Y21N27Y23N9Y70N43Y5N10Y57N9YN13Y25N23Y51N17Y4N8Y35N3YN9Y64NY4N9Y2N10YNYN35" ++
    "Y18NY34N2YN6Y4N62Y7NYNY4NY15NY10N7Y57N23Y4NY8N2Y2N2Y22NY7NY2NY5N3Y8N2Y2N2Y2N3YN6YN5Y7N28" ++
    "Y10NYN2YNY38NY10NYN2YNY4NY2N3YNYN44Y66NY3NY4N20Y3N30Y66N2Y2NYN184Y54N2Y7N25Y6N34Y63NYN3Y" ++
    "N59Y54N2YN71Y27N2Y14N21Y7N185Y57N103Y64N31Y8N2YN2Y8NY2NY30NY2N2Y2N2Y4N93Y8N2Y46N2Y6NYNY2" ++
    "N27Y51N2Y10N17Y72N5YN18Y73N103Y8N88Y33N31Y9NY45NY7NYN49Y30N2Y22NY14N73Y7NY2NY44N3YNY2NY3NY" ++
    "N2Y2N24Y6NY2NY37NY2NY4NYN23Y44N260Y23N9Y17NY41N3Y3N111YN79Y922N102Y111N17Y196N2636Y97N15" ++
    "Y1072N17Y6N25Y3995N5Y583N6841Y47N1745Y569N7Y31N17Y79N17Y30N18Y48N16Y4N31Y21N5Y19N432Y45" ++
    "N211Y64N32Y25N2Y25N44Y75N4Y57N7Y17N64Y2NYN12Y7N9Y7382N41Y32N97Y115N8701Y4NY7NY2NY291N15Y" ++
    "N29Y3N2YN14Y4N8Y396N2308Y107N5Y13N3Y9N7Y10N4YN5985Y85NY71NY2N2YN2Y2N2Y4NY12NYNY7NY65NY4N2" ++
    "Y8NY7NY28NY4NY5NYN3Y7NY340N2Y25NY25NY31NY25NY31NY25NY31NY25NY31NY25NY8N1844Y31N6Y6N213Y7N" ++
    "Y17N2Y7NY2NY5N5Y62N33YN112Y45N10Y7N16YN321Y30N18Y44N484Y28N228Y30N2YN207Y31NY22N8Y2N224Y7N" ++
    "Y4NY2NY15NY197N59Y68N3YN3YN1204Y4NY27NY2NYN2YNY10NY4NYNYN6YN4YNYNYNY3NY2NYN2YNYNYNYNYNY2NY" ++
    "N2Y4NY7NY4NY4NYNY10NY17N5Y3NY5NY17N628Y26N6Y26N6Y26N3702Y42720N32Y4382N2Y5774N2Y7473N15" ++
    "Y622N2466Y542N1506Y4939N5Y8490N904070"

/-- The code points with the property `lowercase`. -/
def lowercaseRuns : Array (Run Bool) :=
  tableOf <|
    "N97Y26N47YN10YN4YN36Y24NY8NYNYNYNYNYNYNYNYNYNYNYNYNYNYNYNYNYNYNYNYNYNYNYNYNYNYNYNY2NYNYNYN" ++
    "YNYNYNYNY2NYNYNYNYNYNYNYNYNYNYNYNYNYNYNYNYNYNYNYNYNYNYNYN2YNYNY3N2YNYN2YN3Y2N4YN2YN3Y3N2Y" ++
    "N2YNYNYN2YNY2NYN2YN3YNYN2Y2N2Y3N6YN2YN2YNYNYNYNYNYNYNYNY2NYNYNYNYNYNYNYNYNY2N2YNYN3YNYNYNY" ++
    "NYNYNYNYNYNYNYNYNYNYNYNYNYNYNYNYNYNYNYNYNYNYNYNYNYNY7N2YN2Y2NYN4YNYNYNYNY69N2Y35N7Y2N30Y5" ++
    "N96YN43YNYN3YN2Y4N18YN27Y35NY2N3Y3NYNYNYNYNYNYNYNYNYNYNYNY5NYN2YN2Y2N51Y48NYNYNYNYNYNYNYNY" ++
    "NYNYNYNYNYNYNYNYNYN9YNYNYNYNYNYNYNYNYNYNYNYNYNYNYNYNYNYNYNYNYNYNYNYNYNYNYN2YNYNYNYNYNYNY2N" ++
    "YNYNYNYNYNYNYNYNYNYNYNYNYNYNYNYNYNYNYNYNYNYNYNYNYNYNYNYNYNYNYNYNYNYNYNYNYNYNYNYNYNYNYNYNYN" ++
    "YNYNYN48Y41N2887Y43NY4N760Y6N2178Y9NYN117Y192N65YNYNYNYNYNYNYNYNYNYNYNYNYNYNYNYNYNYNYNYNYN" ++
    "YNYNYNYNYNYNYNYNYNYNYNYNYNYNYNYNYNYNYNYNYNYNYNYNYNYNYNYNYNYNYNYNYNYNYNYNYNYNYNYNYNYNYNYNYN" ++
    "YNYNYNYNYNYNYNYNY9NYNYNYNYNYNYNYNYNYNYNYNYNYNYNYNYNYNYNYNYNYNYNYNYNYNYNYNYNYNYNYNYNYNYNYNY" ++
    "NYNYNYNYNYNYNYNYNYNYNYNYNY9N8Y6N10Y8N8Y8N8Y6N10Y8N8Y8N8Y14N2Y8N8Y8N8Y8N8Y5NY2N6YN3Y3NY2N8" ++
    "Y4N2Y2N8Y8N10Y3NY2N121YN13YN16Y13N109YN3Y2N3YN27YN4YN4YN2Y2N8Y4N4YN33Y16N4YN843Y26N1862Y48" ++
    "NYN3Y2NYNYNYN4YNY2NY8N3YNYNYNYNYNYNYNYNYNYNYNYNYNYNYNYNYNYNYNYNYNYNYNYNYNYNYNYNYNYNYNYNYNY" ++
    "NYNYNYNYNYNYNYNYNYNYNYNYNYNYNYNY2N7YNYN4YN12Y38NYN5YN30995YNYNYNYNYNYNYNYNYNYNYNYNYNYNYNYN" ++
    "YNYNYNYNYNYNYN19YNYNYNYNYNYNYNYNYNYNYNYNYNY3N133YNYNYNYNYNYNY3NYNYNYNYNYNYNYNYNYNYNYNYNYNY" ++
    "NYNYNYNYNYNYNYNYNYNYNYNYNYNYNYNYNY10NYNYN2YNYNYNYNYN4YNYN2YNY3NYNYNYNYNYNYNYNYNYNYN5YN5YNY" ++
    "NYNYNYNYNYNYN4YNYN2YNYNYNYNYNYNYNYN21Y4NYNY3N821Y43NY14N6Y80N20288Y7N12Y5N1065Y26N1229Y40" ++
    "N136Y36N155Y11NY15NY7NY2N451YN2Y3NY42NY9N1285Y51N125Y22N2874Y32N21888Y32N59Y25N25926Y26N26" ++
    "Y7NY18N26Y26N26Y4NYNY7NY11N26Y26N26Y26N26Y26N26Y26N26Y26N26Y26N26Y26N26Y26N26Y28N28Y25NY6" ++
    "N26Y25NY6N26Y25NY6N26Y25NY6N26Y25NY6NYN1844Y10NY20N6Y6N261Y62N2228Y34N988860"

/-- The code points with the property `uppercase`. -/
def uppercaseRuns : Array (Run Bool) :=
  tableOf <|
    "N65Y26N101Y23NY7N33YNYNYNYNYNYNYNYNYNYNYNYNYNYNYNYNYNYNYNYNYNYNYNYNYNYNYNYN2YNYNYNYNYNYNYN" ++
    "YN2YNYNYNYNYNYNYNYNYNYNYNYNYNYNYNYNYNYNYNYNYNYNYNY2NYNYN3Y2NYNY2NY3N2Y4NY2NY3N3Y2NY2NYNYN" ++
    "Y2NYN2YNY2NY3NYNY2N3YN7YN2YN2YN2YNYNYNYNYNYNYNYN2YNYNYNYNYNYNYNYNYN2YN2YNY3NYNYNYNYNYNYNYN" ++
    "YNYNYNYNYNYNYNYNYNYNYNYNYNYNYNYNYNYNYNYNYNYN7Y2NY2N2YNY4NYNYNYNYN289YNYN3YN8YN6YNY3NYNY2N" ++
    "Y17NY9N35YN2Y3N3YNYNYNYNYNYNYNYNYNYNYNYN5YN2YNY2N2Y51N48YNYNYNYNYNYNYNYNYNYNYNYNYNYNYNYNY" ++
    "N9YNYNYNYNYNYNYNYNYNYNYNYNYNYNYNYNYNYNYNYNYNYNYNYNYNYNYNY2NYNYNYNYNYNYN2YNYNYNYNYNYNYNYNYN" ++
    "YNYNYNYNYNYNYNYNYNYNYNYNYNYNYNYNYNYNYNYNYNYNYNYNYNYNYNYNYNYNYNYNYNYNYNYNYNYNYN2Y38N2889Y38" ++
    "NYN5YN722Y86N2195YN6Y43N2Y3N320YNYNYNYNYNYNYNYNYNYNYNYNYNYNYNYNYNYNYNYNYNYNYNYNYNYNYNYNYNY" ++
    "NYNYNYNYNYNYNYNYNYNYNYNYNYNYNYNYNYNYNYNYNYNYNYNYNYNYNYNYNYNYNYNYNYNYNYNYNYNYNYNYNYNYNYNYNY" ++
    "N9YNYNYNYNYNYNYNYNYNYNYNYNYNYNYNYNYNYNYNYNYNYNYNYNYNYNYNYNYNYNYNYNYNYNYNYNYNYNYNYNYNYNYNYN" ++
    "YNYNYNYNYN9Y8N8Y6N10Y8N8Y8N8Y6N11YNYNYNYN8Y8N72Y4N12Y4N12Y4N12Y5N11Y4N262YN4YN3Y3N2Y3N2YN3" ++
    "Y5N6YNYNYNY4N2Y4N10Y2N5YN26Y16N19YN818Y26N1840Y48N48YNY3N2YNYNYNY4NYN2YN8Y3NYNYNYNYNYNYNYN" ++
    "YNYNYNYNYNYNYNYNYNYNYNYNYNYNYNYNYNYNYNYNYNYNYNYNYNYNYNYNYNYNYNYNYNYNYNYNYNYNYNYNYNYN8YNYN4" ++
    "YN31053YNYNYNYNYNYNYNYNYNYNYNYNYNYNYNYNYNYNYNYNYNYNYN19YNYNYNYNYNYNYNYNYNYNYNYNYNYN135YNYN" ++
    "YNYNYNYNYN3YNYNYNYNYNYNYNYNYNYNYNYNYNYNYNYNYNYNYNYNYNYNYNYNYNYNYNYNYNYNYN10YNYNY2NYNYNYNY" ++
    "N4YNYN2YNYN3YNYNYNYNYNYNYNYNYNYNY5NY5NYNYNYNYNYNYNYNY4NYNY2NYNYNYNYNYNYNYNYN24YN22315Y26" ++
    "N1221Y40N136Y36N156Y11NY15NY7NY2N1770Y51N157Y22N2874Y32N21888Y32N64Y25N25927Y26N26Y26N26" ++
    "Y26N26YNY2N2YN2Y2N2Y4NY8N26Y26N26Y2NY4N2Y8NY7N27Y2NY4NY5NYN3Y7N27Y26N26Y26N26Y26N26Y26N26" ++
    "Y26N26Y26N30Y25N33Y25N33Y25N33Y25N33Y25N33YN4405Y34N2062Y26N6Y26N6Y26N986742"

/-- The code points with the property `whiteSpace`. -/
def whiteSpaceRuns : Array (Run Bool) :=
  tableOf <|
    "N9Y5N18YN100YN26YN5599YN2431Y11N29Y2N5YN47YN4000YN1101823"

/-- The code points with the property `cased`. -/
def casedRuns : Array (Run Bool) :=
  tableOf <|
    "N65Y26N6Y26N47YN10YN4YN5Y23NY31NY195NY4N4Y208N2Y35N7Y2N30Y5N96YN42Y4N2Y2N2Y4NYN6YNY3NYNY20" ++
    "NY83NY139N8Y166NY38N9Y41N2839Y38NYN5YN2Y43NY4N672Y86N2Y6N2178Y11N5Y43N2Y3N64Y192N64Y278N2" ++
    "Y6N2Y38N2Y6N2Y8NYNYNYNY31N2Y53NY7NYN3Y3NY7N3Y4N2Y6N4Y13N5Y3NY7N116YN13YN16Y13N101YN4YN2Y10" ++
    "NYN3Y5N6YNYNYNY4NY6N4YN2Y4N5Y5N4YN17Y32N3Y2N817Y52N1814Y229N6Y4N3Y2N12Y38NYN5YN30994Y46N18" ++
    "Y30N132Y102N3Y4NY77N20Y6NY3N821Y43NY14N6Y80N20288Y7N12Y5N1033Y26N6Y26N1189Y80N96Y36N4Y36" ++
    "N116Y11NY15NY7NY2NY11NY15NY7NY2N451YN2Y3NY42NY9N1221Y51N13Y51N93Y22N10Y22N2842Y64N21856Y64" ++
    "N32Y25N2Y25N25900Y85NY71NY2N2YN2Y2N2Y4NY12NYNY7NY65NY4N2Y8NY7NY28NY4NY5NYN3Y7NY340N2Y25N" ++
    "Y25NY31NY25NY31NY25NY31NY25NY31NY25NY8N1844Y10NY20N6Y6N261Y62N2194Y68N2028Y26N6Y26N6Y26" ++
    "N986742"

/-- The code points with the property `dash`. -/
def dashRuns : Array (Run Bool) :=
  tableOf <|
    "N45YN1372YN51YN3649YN1029YN2057Y6N61YN39YN15YN390YN3076YN2YN31Y2N4YN28YN446YN19YN111Y" ++
    "N52624Y2N37YN10YN169YN3680YN318YN1044818"

/-- The code points with the property `diacritic`. -/
def diacriticRuns : Array (Run Bool) :=
  tableOf <|
    "N94YNYN71YN6YN4YN2Y2N503Y159NY8N5Y6N17Y2N4YN9Y2N253Y5N209YN55Y45NYNY2NY2NYN131Y8N4Y2N134Y2" ++
    "N4Y2N3Y3N67Y27N91Y11N58Y11N34Y2N126Y8N41Y10N16Y28N61YN16YN3Y4N28YN74YN16YN110YN16YN110YN16" ++
    "YN47Y3N60YN16YN7YN119YN110YN16YN110YN16YN109Y2N16YN124YN111YN12Y6NYN107YN13Y5N75Y2N27YNYNY" ++
    "N4Y2N66Y3NY2N62YN112YNY2N40Y2N4Y5N25Y7NYN10Y2N705Y3N948Y2N30YN148Y11N9YN347Y3N292YN20Y8N2Y" ++
    "N48Y15N2Y11N3Y15N2Y12N72YN15YN38Y9N54Y2N58YN11Y2N66Y2N64Y6N82Y25N4YN6YN2Y3N50Y63N48Y36N5" ++
    "Y12N37Y11N445YNY3N11Y3N13Y3N13Y3N13Y2N3312Y3N317YN506Y6N105Y4N95YN30066YN12Y2NYN28Y2N82Y2" ++
    "N14Y34N102Y3N102YN6Y2N12YN37YN151YN27Y18N57Y4N36YN95YN12YN36YN149Y3N65Y4N51YN100Y5N9Y3N128" ++
    "Y2N20272YN769Y16N270YNYN47YN45Y2N67YN764YN1183Y6NY42NY9N637Y3N4YN165Y2N571Y6N38YN26Y5N396Y" ++
    "N2Y3N70Y11N49Y4N192YN41YN72Y2N120Y2N62YN76YN9Y3N104Y2N178Y2N80Y2N16YN24Y7N3Y5N89Y3NY2N13Y2" ++
    "N95YN3YN123Y2N251Y2N126YN118Y2N115YN269Y2N258Y2N4YN156YN83YN18YN81YN421YN258YNY2N81YN65Y" ++
    "N359Y2N23YN5356Y15N11481YN2496Y5N59Y7N564Y2N546Y17N80Y2N16382Y4NY7NY2N7937Y46N2Y23N544Y3N3" ++
    "Y6N8Y8N2Y7N30Y4N3714Y62N194Y7N375YN61Y4N766Y2N736Y7N109Y3NY3N988853"

/-- The code points with the property `emoji`. -/
def emojiRuns : Array (Run Bool) :=
  tableOf <|
    "N35YN6YN5Y10N111YN4YN8077YN12YN216YN22YN90Y6N15Y2N367Y2N12YN166YN25Y11N4Y3N199YN231Y2N10Y" ++
    "N9YN58Y4NY5N9YN2YN2Y2N2YN4YN2YNY2N2YN3YN3Y2N8Y3N5YNYN5Y12N11Y2N2YNY2NYN18YN2Y2N18Y6NYNY2N3" ++
    "Y2N5YN2Y2N4Y2N11Y2N5Y2N2YN5Y2NYNY2N20Y2N5Y6NY4N2YN4YN2YN2Y6NYN2YNYNYN6YN3YN6YN10Y2N15YN2Y" ++
    "N4YNYN4Y3NYN11Y2N48Y3N9YN14YN14YN372Y2N463Y3N19Y2N51YN4YN1242YN12YN601YNYN114026YN202YN160" ++
    "Y2N12Y2N14YN2Y10N75Y26NY2N23YN20YN2Y9N21Y2N174Y34N2Y112N2Y2NY3N2Y83N2Y3NY263NY63N11Y6NY24" ++
    "N7Y2N2Y8N12YN2Y4N2YN4Y2N13Y2N2YN8Y2N9YN5Y3N12Y3N8Y3N2YNYN4YN6YN3YN6Y86N48Y70N5Y8N2Y4N3Y10" ++
    "N3YNY2N3YN2Y10N227Y12N4YN283Y47NY10NY185N112Y13N3Y11N3Y57NYN4Y16N2Y12N4Y10N984327"

/-- The code points with the property `extender`. -/
def extenderRuns : Array (Run Bool) :=
  tableOf <|
    "N183YN536Y2N878YN441YN630YN137YN89YN752YN127YN2371YN56YN611YN398YN68YN5001YN43Y5N103Y2N93" ++
    "Y3N28438YN1526YN962YN22YN137YN108YN21Y2N21627YN2064Y2N1483YN27YN4YN1223YN293YN116Y2N498Y3" ++
    "N1231YN832YN19816Y2N1180Y2NYN14Y2N29000Y2N1201YN852Y3N988857"

/-- The code points with the property `hexDigit`. -/
def hexDigitRuns : Array (Run Bool) :=
  tableOf <|
    "N48Y10N7Y6N26Y6N65193Y10N7Y6N26Y6N1048761"

/-- The code points with the property `asciiHexDigit`. -/
def asciiHexDigitRuns : Array (Run Bool) :=
  tableOf <|
    "N48Y10N7Y6N26Y6N1114009"

/-- The code points with the property `idStart`. -/
def idStartRuns : Array (Run Bool) :=
  tableOf <|
    "N65Y26N6Y26N47YN10YN4YN5Y23NY31NY458N4Y12N14Y5N7YNYN129Y5NY2N2Y4NYN6YNY3NYNY20NY83NY139N8" ++
    "Y166NY38N2YN6Y41N71Y27N4Y4N45Y43N35Y2NY99NYN15Y2N7Y2N10Y3N2YN16YNY30N29Y89N11YN24Y33N9Y2N4" ++
    "YN5Y22N4YN9YN3YN23Y25N7Y11N5Y24NY7N16Y42N58Y54N3YN18YN7Y10N15Y16N4Y8N2Y2N2Y22NY7NYN3Y4N3Y" ++
    "N16YN13Y2NY3N14Y2N10YN8Y6N4Y2N2Y22NY7NY2NY2NY2N31Y4NYN19Y3N16Y9NY3NY22NY7NY2NY5N3YN18YN15" ++
    "Y2N23YN11Y8N2Y2N2Y22NY7NY2NY5N3YN30Y2NY3N15YN17YNY6N3Y3NY4N3Y2NYNY2N3Y2N3Y3N3Y12N22YN52Y8N" ++
    "Y3NY23NY16N3YN26Y3NY2N2Y2N30YN4Y8NY3NY23NY10NY5N3YN30Y3NY2N15Y2N17Y9NY3NY41N2YN16YN5Y3N8Y3" ++
    "N24Y6N5Y18N3Y24NY9NYN2Y7N58Y48NY2N12Y7N58Y2NYNY5NY24NYNY10NY2N9YN2Y5NYN21Y4N32YN63Y8NY36" ++
    "N27Y5N115Y43N20YN16Y6N4Y4N3YN3Y2N7Y3N4Y13N12YN17Y38NYN5YN2Y43NY333NY4N2Y7NYNY4N2Y41NY4N2" ++
    "Y33NY4N2Y7NYNY4N2Y15NY57NY4N2Y67N37Y16N16Y86N2Y6N3Y620N2Y17NY26N5Y75N3Y11N7Y18N13Y19N14Y18" ++
    "N14Y13NY3N15Y52N35YN4YN67Y89N7Y41NYN5Y70N10Y31N49Y30N2Y5N11Y44N4Y26N54Y23N9Y53N82YN93Y47" ++
    "N17Y8N54Y30N13Y2N10Y44N26Y36N41Y3N10Y36N2Y11N5Y43N2Y3N41Y4NY6NY2N3YN5Y192N64Y278N2Y6N2Y38" ++
    "N2Y6N2Y8NYNYNYNY31N2Y53NY7NYN3Y3NY7N3Y4N2Y6N4Y13N5Y3NY7N116YN13YN16Y13N101YN4YN2Y10NYN2Y6" ++
    "N6YNYNYNY16N2Y4N5Y5N4YN17Y41N2679Y229N6Y4N3Y2N12Y38NYN5YN2Y56N7YN16Y23N9Y7NY7NY7NY7NY7NY7N" ++
    "Y7NY7N550Y3N25Y9N7Y5N2Y5N4Y86N4Y5NY90NY4N5Y43NY94N17Y32N48Y16N512Y6592N64Y22157N67Y46N2" ++
    "Y269N3Y16N10Y2N20Y47N16Y31N2Y80N39Y9N2Y103N2Y82N20Y17NY3NY4NY23N29Y52N14Y50N62Y6N3YNY2N11" ++
    "Y28N10Y23N25Y29N7Y47N28YN16Y5NY10N10Y5NY41N23Y3NY8N20Y23N3YN3Y50NYN3Y2N2Y5N2YNYN24Y3N2Y11" ++
    "N7Y3N12Y6N2Y6N2Y6N9Y7NY7NY43NY14N6Y115N29Y11172N12Y23N4Y49N8452Y366N2Y106N38Y7N12Y5N5YNY10" ++
    "NY13NY5NYNY2NY2NY108N33Y363N18Y64N2Y54N40Y12N116Y5NY135N36Y26N6Y26N11Y89N3Y6N2Y6N2Y6N2Y3" ++
    "N35Y12NY26NY19NY2NY15N2Y14N34Y123N69Y53N267Y29N3Y49N47Y32N13Y30N5Y38N10Y30N2Y36N4Y8NY5N42" ++
    "Y158N18Y36N4Y36N4Y40N8Y52N12Y11NY15NY7NY2NY11NY15NY7NY2N3Y52N12Y311N9Y22N10Y8N24Y6NY42NY9" ++
    "N69Y6N2YNY44NY2N3YN2Y23N10Y23N9Y31N65Y19NY2N10Y22N10Y26N6Y26N38Y56N6Y2N64YN15Y4NY3NY29N42" ++
    "Y29N3Y29N35Y8NY28N27Y54N10Y22N10Y19N13Y18N110Y73N55Y51N13Y51N13Y36N38Y28N9Y23N250Y42N6Y2" ++
    "N16Y6N56Y29N10YN8Y22N42Y18N46Y21N27Y23N12Y53N57Y2N2YN13Y45N32Y25N26Y36N29YN2YN8Y35N3YN12" ++
    "Y48N14Y4N21YNYN35Y18NY25N19Y2N63Y7NYNY4NY15NY10N7Y47N38Y8N2Y2N2Y22NY7NY2NY5N3YN18YN12Y5N30" ++
    "Y10NYN2YNY38NYN25YNYN44Y53N18Y4N20Y3N30Y48N20Y2NYN184Y47N41Y4N36Y48N20YN59Y43N13YN71Y27N37" ++
    "Y7N185Y44N116Y64N31Y8N2YN2Y8NY2NY24N15YNYN94Y8N2Y39N16YNYN28YN10Y40N7YN21YN11Y46N19YN18Y73" ++
    "N199Y33N31Y9NY37N17YN49Y30N112Y7NY2NY38N21YN25Y6NY2NY32N14YN23Y44N260Y19N15YNY13NY34N124Y" ++
    "N79Y922N102Y111N17Y196N2636Y97N15Y1072N17Y6N25Y3995N5Y583N6841Y30N1762Y569N7Y31N17Y79N17" ++
    "Y30N18Y48N16Y4N31Y21N5Y19N432Y45N211Y64N32Y25N2Y25N44Y75N5YN66Y13N64Y2NYN14Y5N9Y7382N41Y32" ++
    "N97Y115N8701Y4NY7NY2NY291N15YN29Y3N2YN14Y4N8Y396N2308Y107N5Y13N3Y9N7Y10N5990Y85NY71NY2N2Y" ++
    "N2Y2N2Y4NY12NYNY7NY65NY4N2Y8NY7NY28NY4NY5NYN3Y7NY340N2Y25NY25NY31NY25NY31NY25NY31NY25NY31N" ++
    "Y25NY8N1844Y31N6Y6N261Y62N146Y45N10Y7N16YN321Y30N18Y44N484Y28N228Y30N2YN207Y31NY3NY2NY7N2" ++
    "Y5N9Y2N224Y7NY4NY2NY15NY197N59Y68N7YN1204Y4NY27NY2NYN2YNY10NY4NYNYN6YN4YNYNYNY3NY2NYN2YNYN" ++
    "YNYNYNY2NYN2Y4NY7NY4NY4NYNY10NY17N5Y3NY5NY17N4420Y42720N32Y4382N2Y5774N2Y7473N15Y622N2466" ++
    "Y542N1506Y4939N5Y8490N904070"

/-- The code points with the property `idContinue`. -/
def idContinueRuns : Array (Run Bool) :=
  tableOf <|
    "N48Y10N7Y26N4YNY26N47YN10YNYN2YN5Y23NY31NY458N4Y12N14Y5N7YNYN17Y117NY2N2Y4NYN6Y5NYNY20NY83" ++
    "NY139NY5N2Y166NY38N2YN6Y41N8Y45NYNY2NY2NYN8Y27N4Y4N29Y11N5Y74N4Y102NY8N2Y10NY19N2YN16Y59N2" ++
    "Y101N14Y54N4YN2YN2Y46N18Y28N4Y11N5Y24NY7N7Y75NY129N2Y10NY19NY8N2Y2N2Y22NY7NYN3Y4N2Y9N2Y2N2" ++
    "Y4N8YN4Y2NY5N2Y12N10YNYN2Y3NY6N4Y2N2Y22NY7NY2NY2NY2N2YNY5N4Y2N2Y3N3YN7Y4NYN7Y16N11Y3NY9NY3" ++
    "NY22NY7NY2NY5N2Y10NY3NY3N2YN15Y4N2Y10N9Y7NY3NY8N2Y2N2Y22NY7NY2NY5N2Y9N2Y2N2Y3N7Y3N4Y2NY5N2" ++
    "Y10NYN16Y2NY6N3Y3NY4N3Y2NYNY2N3Y2N3Y3N3Y12N4Y5N3Y3NY4N2YN6YN14Y10N16Y13NY3NY23NY16N2Y9NY3N" ++
    "Y4N7Y2NY3NY2N2Y4N2Y10N16Y4NY8NY3NY23NY10NY5N2Y9NY3NY4N7Y2N5Y3NY4N2Y10NY3N12Y13NY3NY51NY3N" ++
    "Y5N5Y4N7Y5N2Y10N10Y6NY3NY18N3Y24NY9NYN2Y7N3YN4Y6NYNY8N6Y10N2Y2N13Y58N5Y15NY10N39Y2NYNY5N" ++
    "Y24NYNY23N2Y5NYNY7NY10N2Y4N32YN23Y2N6Y10N11YNYNYN4Y10NY36N4Y20NY18NY36N9YN57Y74N6Y78N2Y38N" ++
    "YN5YN2Y43NY333NY4N2Y7NYNY4N2Y41NY4N2Y33NY4N2Y7NYNY4N2Y15NY57NY4N2Y67N2Y3N9Y9N14Y16N16Y86N2" ++
    "Y6N3Y620N2Y17NY26N5Y75N3Y11N7Y22N9Y22N11Y20N12Y13NY3NY2N12Y84N3YN4Y2N2Y10N33Y3NY11N6Y89N7" ++
    "Y43N5Y70N10Y31NY12N4Y12N10Y40N2Y5N11Y44N4Y26N6Y11N37Y28N4Y63NY29N2Y11N6Y10N13YN8Y14NY31N2" ++
    "Y12N20Y77N3Y10N17Y9N12Y116N12Y56N8Y10N3Y49N2Y11N5Y43N2Y3N16Y3NY39N5Y534N2Y6N2Y38N2Y6N2Y8NY" ++
    "NYNYNY31N2Y53NY7NYN3Y3NY7N3Y4N2Y6N4Y13N5Y3NY7N15Y2N49Y2N19YN28YN13YN16Y13N51Y13N4YN3Y12N17" ++
    "YN4YN2Y10NYN2Y6N6YNYNYNY16N2Y4N5Y5N4YN17Y41N2679Y229N6Y9N12Y38NYN5YN2Y56N7YN15Y24N9Y7NY7N" ++
    "Y7NY7NY7NY7NY7NY7NY32N517Y3N25Y15NY5N2Y5N4Y86N2Y7NY95N5Y43NY94N17Y32N48Y16N512Y6592N64" ++
    "Y22157N67Y46N2Y269N3Y28N20Y48N4Y10NY115N37Y9N2Y103N2Y82N20Y55N4YN19Y52N12Y70N10Y10N6Y24N3Y" ++
    "NY49N2Y36N12Y29N3Y65N14Y11N6Y31NY55N9Y14N2Y10N6Y23N3Y73N24Y3N2Y16N2Y5N10Y6N2Y6N2Y6N9Y7NY7N" ++
    "Y43NY14N6Y123NY2N2Y10N6Y11172N12Y23N4Y49N8452Y366N2Y106N38Y7N12Y5N5Y12NY13NY5NYNY2NY2NY108" ++
    "N33Y363N18Y64N2Y54N40Y12N4Y16N16Y16N3Y2N24Y3N32Y5NY135N19Y10N7Y26N4YNY26N10Y90N3Y6N2Y6N2Y6" ++
    "N2Y3N35Y12NY26NY19NY2NY15N2Y14N34Y123N69Y53N136YN130Y29N3Y49N15YN31Y32N13Y30N5Y43N5Y30N2" ++
    "Y36N4Y8NY5N42Y158N2Y10N6Y36N4Y36N4Y40N8Y52N12Y11NY15NY7NY2NY11NY15NY7NY2N3Y52N12Y311N9Y22" ++
    "N10Y8N24Y6NY42NY9N69Y6N2YNY44NY2N3YN2Y23N10Y23N9Y31N65Y19NY2N10Y22N10Y26N6Y26N38Y56N6Y2N64" ++
    "Y4NY2N5Y8NY3NY29N2Y3N4YN32Y29N3Y29N35Y8NY30N25Y54N10Y22N10Y19N13Y18N110Y73N55Y51N13Y51N13" ++
    "Y40N8Y10N6Y38N3Y5NY23N250Y42NY2N3Y2N16Y6N50Y35N10YN8Y33N31Y22N42Y21N27Y23N9Y71N31Y16N9Y60" ++
    "N7YN13Y25N7Y10N6Y53NY10N4Y4N8Y36N2YN9Y69N4Y4NY13NYN35Y18NY37N6Y4N62Y7NYNY4NY15NY10N7Y59N5" ++
    "Y10N6Y4NY8N2Y2N2Y22NY7NY2NY5NY10N2Y2N2Y3N2YN6YN5Y7N2Y7N3Y5N11Y10NYN2YNY38NY10NYN2YNY4NY8" ++
    "N13Y2N29Y75N5Y10N4Y4N30Y70NYN8Y10N166Y54N2Y9N23Y6N34Y65N3YN11Y10N38Y57N7Y10N6Y20N28Y27N2" ++
    "Y15N4Y10N6Y7N185Y59N101Y74N21Y8N2YN2Y8NY2NY30NY2N2Y9N12Y10N70Y8N2Y46N2Y8NY2N27Y63N8YN8Y74" ++
    "N3YN18Y73N103Y8N88Y33N15Y10N6Y9NY45NY9N15Y10N24Y30N2Y22NY14N73Y7NY2NY44N3YNY2NY9N8Y10N6Y6N" ++
    "Y2NY37NY2NY6N7Y10N6Y44N4Y10N246Y23N9Y17NY41N3Y5N13Y11N85YN79Y922N102Y111N17Y196N2636Y97N15" ++
    "Y1072N16Y22N10Y3995N5Y583N6841Y58N1734Y569N7Y31NY10N6Y79NY10N6Y30N2Y5N11Y55N9Y4N12Y10N9Y21" ++
    "N5Y19N432Y45N3Y10N198Y64N32Y25N2Y25N44Y75N4Y57N7Y17N64Y2NY2N11Y7N9Y7382N41Y32N97Y115N8701" ++
    "Y4NY7NY2NY291N15YN29Y3N2YN14Y4N8Y396N2308Y107N5Y13N3Y9N7Y10N3Y2N4177Y10N518Y46N2Y23N542Y5" ++
    "N3Y6N8Y8N2Y7N30Y4N148Y3N443Y85NY71NY2N2YN2Y2N2Y4NY12NYNY7NY65NY4N2Y8NY7NY28NY4NY5NYN3Y7N" ++
    "Y340N2Y25NY25NY31NY25NY31NY25NY31NY25NY31NY25NY8N2Y50N512Y55N4Y50N8YN14YN22Y5NY15N1104Y31" ++
    "N6Y6N213Y7NY17N2Y7NY2NY5N5Y62N33YN112Y45N3Y14N2Y10N4YN321Y31N17Y58N470Y42N214Y43N197Y31N" ++
    "Y22N8Y2N224Y7NY4NY2NY15NY197N11Y7N41Y76N4Y10N1190Y4NY27NY2NYN2YNY10NY4NYNYN6YN4YNYNYNY3NY2" ++
    "NYN2YNYNYNYNYNY2NYN2Y4NY7NY4NY4NYNY10NY17N5Y3NY5NY17N3380Y10N1030Y42720N32Y4382N2Y5774N2" ++
    "Y7473N15Y622N2466Y542N1506Y4939N5Y8490N707718Y240N196112"

/-- The code points with the property `xidStart`. -/
def xidStartRuns : Array (Run Bool) :=
  tableOf <|
    "N65Y26N6Y26N47YN10YN4YN5Y23NY31NY458N4Y12N14Y5N7YNYN129Y5NY2N3Y3NYN6YNY3NYNY20NY83NY139N8" ++
    "Y166NY38N2YN6Y41N71Y27N4Y4N45Y43N35Y2NY99NYN15Y2N7Y2N10Y3N2YN16YNY30N29Y89N11YN24Y33N9Y2N4" ++
    "YN5Y22N4YN9YN3YN23Y25N7Y11N5Y24NY7N16Y42N58Y54N3YN18YN7Y10N15Y16N4Y8N2Y2N2Y22NY7NYN3Y4N3Y" ++
    "N16YN13Y2NY3N14Y2N10YN8Y6N4Y2N2Y22NY7NY2NY2NY2N31Y4NYN19Y3N16Y9NY3NY22NY7NY2NY5N3YN18YN15" ++
    "Y2N23YN11Y8N2Y2N2Y22NY7NY2NY5N3YN30Y2NY3N15YN17YNY6N3Y3NY4N3Y2NYNY2N3Y2N3Y3N3Y12N22YN52Y8N" ++
    "Y3NY23NY16N3YN26Y3NY2N2Y2N30YN4Y8NY3NY23NY10NY5N3YN30Y3NY2N15Y2N17Y9NY3NY41N2YN16YN5Y3N8Y3" ++
    "N24Y6N5Y18N3Y24NY9NYN2Y7N58Y48NYN13Y7N58Y2NYNY5NY24NYNY10NYN10YN2Y5NYN21Y4N32YN63Y8NY36N27" ++
    "Y5N115Y43N20YN16Y6N4Y4N3YN3Y2N7Y3N4Y13N12YN17Y38NYN5YN2Y43NY333NY4N2Y7NYNY4N2Y41NY4N2Y33N" ++
    "Y4N2Y7NYNY4N2Y15NY57NY4N2Y67N37Y16N16Y86N2Y6N3Y620N2Y17NY26N5Y75N3Y11N7Y18N13Y19N14Y18N14" ++
    "Y13NY3N15Y52N35YN4YN67Y89N7Y41NYN5Y70N10Y31N49Y30N2Y5N11Y44N4Y26N54Y23N9Y53N82YN93Y47N17Y8" ++
    "N54Y30N13Y2N10Y44N26Y36N41Y3N10Y36N2Y11N5Y43N2Y3N41Y4NY6NY2N3YN5Y192N64Y278N2Y6N2Y38N2Y6N2" ++
    "Y8NYNYNYNY31N2Y53NY7NYN3Y3NY7N3Y4N2Y6N4Y13N5Y3NY7N116YN13YN16Y13N101YN4YN2Y10NYN2Y6N6YNYNY" ++
    "NY16N2Y4N5Y5N4YN17Y41N2679Y229N6Y4N3Y2N12Y38NYN5YN2Y56N7YN16Y23N9Y7NY7NY7NY7NY7NY7NY7NY7" ++
    "N550Y3N25Y9N7Y5N2Y5N4Y86N6Y3NY90NY4N5Y43NY94N17Y32N48Y16N512Y6592N64Y22157N67Y46N2Y269N3" ++
    "Y16N10Y2N20Y47N16Y31N2Y80N39Y9N2Y103N2Y82N20Y17NY3NY4NY23N29Y52N14Y50N62Y6N3YNY2N11Y28N10" ++
    "Y23N25Y29N7Y47N28YN16Y5NY10N10Y5NY41N23Y3NY8N20Y23N3YN3Y50NYN3Y2N2Y5N2YNYN24Y3N2Y11N7Y3N12" ++
    "Y6N2Y6N2Y6N9Y7NY7NY43NY14N6Y115N29Y11172N12Y23N4Y49N8452Y366N2Y106N38Y7N12Y5N5YNY10NY13NY5" ++
    "NYNY2NY2NY108N33Y139N6Y218N18Y64N2Y54N40Y10N119YNYN3YNYNYNYNY126N36Y26N6Y26N11Y56N2Y31N3Y6" ++
    "N2Y6N2Y6N2Y3N35Y12NY26NY19NY2NY15N2Y14N34Y123N69Y53N267Y29N3Y49N47Y32N13Y30N5Y38N10Y30N2" ++
    "Y36N4Y8NY5N42Y158N18Y36N4Y36N4Y40N8Y52N12Y11NY15NY7NY2NY11NY15NY7NY2N3Y52N12Y311N9Y22N10Y8" ++
    "N24Y6NY42NY9N69Y6N2YNY44NY2N3YN2Y23N10Y23N9Y31N65Y19NY2N10Y22N10Y26N6Y26N38Y56N6Y2N64YN15" ++
    "Y4NY3NY29N42Y29N3Y29N35Y8NY28N27Y54N10Y22N10Y19N13Y18N110Y73N55Y51N13Y51N13Y36N38Y28N9Y23" ++
    "N250Y42N6Y2N16Y6N56Y29N10YN8Y22N42Y18N46Y21N27Y23N12Y53N57Y2N2YN13Y45N32Y25N26Y36N29YN2YN8" ++
    "Y35N3YN12Y48N14Y4N21YNYN35Y18NY25N19Y2N63Y7NYNY4NY15NY10N7Y47N38Y8N2Y2N2Y22NY7NY2NY5N3YN18" ++
    "YN12Y5N30Y10NYN2YNY38NYN25YNYN44Y53N18Y4N20Y3N30Y48N20Y2NYN184Y47N41Y4N36Y48N20YN59Y43N13Y" ++
    "N71Y27N37Y7N185Y44N116Y64N31Y8N2YN2Y8NY2NY24N15YNYN94Y8N2Y39N16YNYN28YN10Y40N7YN21YN11Y46" ++
    "N19YN18Y73N199Y33N31Y9NY37N17YN49Y30N112Y7NY2NY38N21YN25Y6NY2NY32N14YN23Y44N260Y19N15YNY13" ++
    "NY34N124YN79Y922N102Y111N17Y196N2636Y97N15Y1072N17Y6N25Y3995N5Y583N6841Y30N1762Y569N7Y31" ++
    "N17Y79N17Y30N18Y48N16Y4N31Y21N5Y19N432Y45N211Y64N32Y25N2Y25N44Y75N5YN66Y13N64Y2NYN14Y5N9" ++
    "Y7382N41Y32N97Y115N8701Y4NY7NY2NY291N15YN29Y3N2YN14Y4N8Y396N2308Y107N5Y13N3Y9N7Y10N5990Y85" ++
    "NY71NY2N2YN2Y2N2Y4NY12NYNY7NY65NY4N2Y8NY7NY28NY4NY5NYN3Y7NY340N2Y25NY25NY31NY25NY31NY25N" ++
    "Y31NY25NY31NY25NY8N1844Y31N6Y6N261Y62N146Y45N10Y7N16YN321Y30N18Y44N484Y28N228Y30N2YN207Y31" ++
    "NY3NY2NY7N2Y5N9Y2N224Y7NY4NY2NY15NY197N59Y68N7YN1204Y4NY27NY2NYN2YNY10NY4NYNYN6YN4YNYNYNY3" ++
    "NY2NYN2YNYNYNYNYNY2NYN2Y4NY7NY4NY4NYNY10NY17N5Y3NY5NY17N4420Y42720N32Y4382N2Y5774N2Y7473" ++
    "N15Y622N2466Y542N1506Y4939N5Y8490N904070"

/-- The code points with the property `xidContinue`. -/
def xidContinueRuns : Array (Run Bool) :=
  tableOf <|
    "N48Y10N7Y26N4YNY26N47YN10YNYN2YN5Y23NY31NY458N4Y12N14Y5N7YNYN17Y117NY2N3Y3NYN6Y5NYNY20NY83" ++
    "NY139NY5N2Y166NY38N2YN6Y41N8Y45NYNY2NY2NYN8Y27N4Y4N29Y11N5Y74N4Y102NY8N2Y10NY19N2YN16Y59N2" ++
    "Y101N14Y54N4YN2YN2Y46N18Y28N4Y11N5Y24NY7N7Y75NY129N2Y10NY19NY8N2Y2N2Y22NY7NYN3Y4N2Y9N2Y2N2" ++
    "Y4N8YN4Y2NY5N2Y12N10YNYN2Y3NY6N4Y2N2Y22NY7NY2NY2NY2N2YNY5N4Y2N2Y3N3YN7Y4NYN7Y16N11Y3NY9NY3" ++
    "NY22NY7NY2NY5N2Y10NY3NY3N2YN15Y4N2Y10N9Y7NY3NY8N2Y2N2Y22NY7NY2NY5N2Y9N2Y2N2Y3N7Y3N4Y2NY5N2" ++
    "Y10NYN16Y2NY6N3Y3NY4N3Y2NYNY2N3Y2N3Y3N3Y12N4Y5N3Y3NY4N2YN6YN14Y10N16Y13NY3NY23NY16N2Y9NY3N" ++
    "Y4N7Y2NY3NY2N2Y4N2Y10N16Y4NY8NY3NY23NY10NY5N2Y9NY3NY4N7Y2N5Y3NY4N2Y10NY3N12Y13NY3NY51NY3N" ++
    "Y5N5Y4N7Y5N2Y10N10Y6NY3NY18N3Y24NY9NYN2Y7N3YN4Y6NYNY8N6Y10N2Y2N13Y58N5Y15NY10N39Y2NYNY5N" ++
    "Y24NYNY23N2Y5NYNY7NY10N2Y4N32YN23Y2N6Y10N11YNYNYN4Y10NY36N4Y20NY18NY36N9YN57Y74N6Y78N2Y38N" ++
    "YN5YN2Y43NY333NY4N2Y7NYNY4N2Y41NY4N2Y33NY4N2Y7NYNY4N2Y15NY57NY4N2Y67N2Y3N9Y9N14Y16N16Y86N2" ++
    "Y6N3Y620N2Y17NY26N5Y75N3Y11N7Y22N9Y22N11Y20N12Y13NY3NY2N12Y84N3YN4Y2N2Y10N33Y3NY11N6Y89N7" ++
    "Y43N5Y70N10Y31NY12N4Y12N10Y40N2Y5N11Y44N4Y26N6Y11N37Y28N4Y63NY29N2Y11N6Y10N13YN8Y14NY31N2" ++
    "Y12N20Y77N3Y10N17Y9N12Y116N12Y56N8Y10N3Y49N2Y11N5Y43N2Y3N16Y3NY39N5Y534N2Y6N2Y38N2Y6N2Y8NY" ++
    "NYNYNY31N2Y53NY7NYN3Y3NY7N3Y4N2Y6N4Y13N5Y3NY7N15Y2N49Y2N19YN28YN13YN16Y13N51Y13N4YN3Y12N17" ++
    "YN4YN2Y10NYN2Y6N6YNYNYNY16N2Y4N5Y5N4YN17Y41N2679Y229N6Y9N12Y38NYN5YN2Y56N7YN15Y24N9Y7NY7N" ++
    "Y7NY7NY7NY7NY7NY7NY32N517Y3N25Y15NY5N2Y5N4Y86N2Y2N2Y3NY95N5Y43NY94N17Y32N48Y16N512Y6592N64" ++
    "Y22157N67Y46N2Y269N3Y28N20Y48N4Y10NY115N37Y9N2Y103N2Y82N20Y55N4YN19Y52N12Y70N10Y10N6Y24N3Y" ++
    "NY49N2Y36N12Y29N3Y65N14Y11N6Y31NY55N9Y14N2Y10N6Y23N3Y73N24Y3N2Y16N2Y5N10Y6N2Y6N2Y6N9Y7NY7N" ++
    "Y43NY14N6Y123NY2N2Y10N6Y11172N12Y23N4Y49N8452Y366N2Y106N38Y7N12Y5N5Y12NY13NY5NYNY2NY2NY108" ++
    "N33Y139N6Y218N18Y64N2Y54N40Y10N6Y16N16Y16N3Y2N24Y3N33YNYN3YNYNYNYNY126N19Y10N7Y26N4YNY26" ++
    "N10Y90N3Y6N2Y6N2Y6N2Y3N35Y12NY26NY19NY2NY15N2Y14N34Y123N69Y53N136YN130Y29N3Y49N15YN31Y32" ++
    "N13Y30N5Y43N5Y30N2Y36N4Y8NY5N42Y158N2Y10N6Y36N4Y36N4Y40N8Y52N12Y11NY15NY7NY2NY11NY15NY7NY2" ++
    "N3Y52N12Y311N9Y22N10Y8N24Y6NY42NY9N69Y6N2YNY44NY2N3YN2Y23N10Y23N9Y31N65Y19NY2N10Y22N10Y26" ++
    "N6Y26N38Y56N6Y2N64Y4NY2N5Y8NY3NY29N2Y3N4YN32Y29N3Y29N35Y8NY30N25Y54N10Y22N10Y19N13Y18N110" ++
    "Y73N55Y51N13Y51N13Y40N8Y10N6Y38N3Y5NY23N250Y42NY2N3Y2N16Y6N50Y35N10YN8Y33N31Y22N42Y21N27" ++
    "Y23N9Y71N31Y16N9Y60N7YN13Y25N7Y10N6Y53NY10N4Y4N8Y36N2YN9Y69N4Y4NY13NYN35Y18NY37N6Y4N62Y7NY" ++
    "NY4NY15NY10N7Y59N5Y10N6Y4NY8N2Y2N2Y22NY7NY2NY5NY10N2Y2N2Y3N2YN6YN5Y7N2Y7N3Y5N11Y10NYN2YN" ++
    "Y38NY10NYN2YNY4NY8N13Y2N29Y75N5Y10N4Y4N30Y70NYN8Y10N166Y54N2Y9N23Y6N34Y65N3YN11Y10N38Y57N7" ++
    "Y10N6Y20N28Y27N2Y15N4Y10N6Y7N185Y59N101Y74N21Y8N2YN2Y8NY2NY30NY2N2Y9N12Y10N70Y8N2Y46N2Y8N" ++
    "Y2N27Y63N8YN8Y74N3YN18Y73N103Y8N88Y33N15Y10N6Y9NY45NY9N15Y10N24Y30N2Y22NY14N73Y7NY2NY44N3Y" ++
    "NY2NY9N8Y10N6Y6NY2NY37NY2NY6N7Y10N6Y44N4Y10N246Y23N9Y17NY41N3Y5N13Y11N85YN79Y922N102Y111" ++
    "N17Y196N2636Y97N15Y1072N16Y22N10Y3995N5Y583N6841Y58N1734Y569N7Y31NY10N6Y79NY10N6Y30N2Y5N11" ++
    "Y55N9Y4N12Y10N9Y21N5Y19N432Y45N3Y10N198Y64N32Y25N2Y25N44Y75N4Y57N7Y17N64Y2NY2N11Y7N9Y7382" ++
    "N41Y32N97Y115N8701Y4NY7NY2NY291N15YN29Y3N2YN14Y4N8Y396N2308Y107N5Y13N3Y9N7Y10N3Y2N4177Y10" ++
    "N518Y46N2Y23N542Y5N3Y6N8Y8N2Y7N30Y4N148Y3N443Y85NY71NY2N2YN2Y2N2Y4NY12NYNY7NY65NY4N2Y8NY7N" ++
    "Y28NY4NY5NYN3Y7NY340N2Y25NY25NY31NY25NY31NY25NY31NY25NY31NY25NY8N2Y50N512Y55N4Y50N8YN14Y" ++
    "N22Y5NY15N1104Y31N6Y6N213Y7NY17N2Y7NY2NY5N5Y62N33YN112Y45N3Y14N2Y10N4YN321Y31N17Y58N470Y42" ++
    "N214Y43N197Y31NY22N8Y2N224Y7NY4NY2NY15NY197N11Y7N41Y76N4Y10N1190Y4NY27NY2NYN2YNY10NY4NYNY" ++
    "N6YN4YNYNYNY3NY2NYN2YNYNYNYNYNY2NYN2Y4NY7NY4NY4NYNY10NY17N5Y3NY5NY17N3380Y10N1030Y42720N32" ++
    "Y4382N2Y5774N2Y7473N15Y622N2466Y542N1506Y4939N5Y8490N707718Y240N196112"

/-- The code points with the property `ideographic`. -/
def ideographicRuns : Array (Run Bool) :=
  tableOf <|
    "N12294Y2N25Y9N14Y3N965Y6592N64Y20992N22784Y366N2Y106N29962YN13Y5N9Y7382N41Y32N97Y115N9085" ++
    "Y396N19716Y42720N32Y4382N2Y5774N2Y7473N15Y622N2466Y542N1506Y4939N5Y8490N904070"

/-- The code points with the property `joinControl`. -/
def joinControlRuns : Array (Run Bool) :=
  tableOf <|
    "N8204Y2N1105906"

/-- The code points with the property `math`. -/
def mathRuns : Array (Run Bool) :=
  tableOf <|
    "N43YN16Y3N31YN29YNYN45YN4YN37YN31YN728Y3N2YN26Y2N2Y3N527Y3N6669YN27Y3N11YN3YN13YN14Y4N21Y5" ++
    "N11Y5N65Y13N4YN3Y2N4Y5N18YN4YN2Y10NYN2Y6N6YN3Y2N2Y2NY3NY6N3Y14NYN68Y24NY6NY2N4Y2N4Y32NYN6" ++
    "Y2N14Y268N8Y4N20Y2N90YN30Y27NYN24YN11Y7N445Y2N12Y10N4Y6N4Y2N2Y2N3Y5N14YNYN2Y6N11Y8N5Y2N57Y" ++
    "NYN29Y4N9Y3N336Y64N256Y512N48Y21N2Y6N53212YN823Y6NYN162YN16Y3N29YNYN29YNYN131YN6Y4N3489Y2" ++
    "N49504YN1295Y85NY71NY2N2YN2Y2N2Y4NY12NYNY7NY65NY4N2Y8NY7NY28NY4NY5NYN3Y7NY340N2Y292N2Y50" ++
    "N5632Y4NY27NY2NYN2YNY10NY4NYNYN6YN4YNYNYNY3NY2NYN2YNYNYNYNYNY2NYN2Y4NY7NY4NY4NYNY10NY17N5" ++
    "Y3NY5NY17N52Y2N2526Y9N984871"

/-- The code points with the property `noncharacter`. -/
def noncharacterRuns : Array (Run Bool) :=
  tableOf <|
    "N64976Y32N526Y2N65534Y2N65534Y2N65534Y2N65534Y2N65534Y2N65534Y2N65534Y2N65534Y2N65534Y2" ++
    "N65534Y2N65534Y2N65534Y2N65534Y2N65534Y2N65534Y2N65534Y2"

/-- The code points with the property `patternWhiteSpace`. -/
def patternWhiteSpaceRuns : Array (Run Bool) :=
  tableOf <|
    "N9Y5N18YN100YN8072Y2N24Y2N1105878"

/-- The code points with the property `quotationMark`. -/
def quotationMarkRuns : Array (Run Bool) :=
  tableOf <|
    "N34YN4YN131YN15YN8028Y8N25Y2N3591YN457Y4N13Y3N52769Y4N189YN4YN90Y2N1048732"

/-- The code points with the property `radical`. -/
def radicalRuns : Array (Run Bool) :=
  tableOf <|
    "N11904Y26NY89N12Y214N1101866"

/-- The code points with the property `regionalIndicator`. -/
def regionalIndicatorRuns : Array (Run Bool) :=
  tableOf <|
    "N127462Y26N986624"

/-- The code points with the property `softDotted`. -/
def softDottedRuns : Array (Run Bool) :=
  tableOf <|
    "N105Y2N196YN281YN30YN52YN20YN320YN98YNYN6409YN51YN13YN3YN132YN157YN421YN214Y2N2866YN108453" ++
    "Y2N50Y2N50Y2N50Y2N50Y2N50Y2N50Y2N50Y2N50Y2N50Y2N50Y2N50Y2N50Y2N2182YN305Y2N26YN991127"

/-- The code points with the property `unifiedIdeograph`. -/
def unifiedIdeographRuns : Array (Run Bool) :=
  tableOf <|
    "N13312Y6592N64Y20992N23054Y2NYNY2N10YNYNY2N2Y3N67030Y42720N32Y4382N2Y5774N2Y7473N15Y622" ++
    "N4514Y4939N5Y8490N904070"

/-- The code points with the property `variationSelector`. -/
def variationSelectorRuns : Array (Run Bool) :=
  tableOf <|
    "N6155Y3NYN58864Y16N852720Y240N196112"

/-- The runs of a property. -/
def runs : CharProperty → Array (Run Bool)
  | .alphabetic => alphabeticRuns
  | .lowercase => lowercaseRuns
  | .uppercase => uppercaseRuns
  | .whiteSpace => whiteSpaceRuns
  | .cased => casedRuns
  | .dash => dashRuns
  | .diacritic => diacriticRuns
  | .emoji => emojiRuns
  | .extender => extenderRuns
  | .hexDigit => hexDigitRuns
  | .asciiHexDigit => asciiHexDigitRuns
  | .idStart => idStartRuns
  | .idContinue => idContinueRuns
  | .xidStart => xidStartRuns
  | .xidContinue => xidContinueRuns
  | .ideographic => ideographicRuns
  | .joinControl => joinControlRuns
  | .math => mathRuns
  | .noncharacter => noncharacterRuns
  | .patternWhiteSpace => patternWhiteSpaceRuns
  | .quotationMark => quotationMarkRuns
  | .radical => radicalRuns
  | .regionalIndicator => regionalIndicatorRuns
  | .softDotted => softDottedRuns
  | .unifiedIdeograph => unifiedIdeographRuns
  | .variationSelector => variationSelectorRuns

/-- Does a code point have the property? -/
def holds (p : CharProperty) (code : Nat) : Bool :=
  (Run.lookup p.runs code).getD false

/-- The property with a name, which is in lower case and without separators. -/
def ofName? : String → Option CharProperty
  | "alphabetic" | "alpha" => some .alphabetic
  | "lowercase" | "lower" => some .lowercase
  | "uppercase" | "upper" => some .uppercase
  | "whitespace" | "wspace" | "space" => some .whiteSpace
  | "cased" => some .cased
  | "dash" => some .dash
  | "diacritic" | "dia" => some .diacritic
  | "emoji" => some .emoji
  | "extender" | "ext" => some .extender
  | "hexdigit" | "hex" => some .hexDigit
  | "asciihexdigit" | "ahex" => some .asciiHexDigit
  | "idstart" | "ids" => some .idStart
  | "idcontinue" | "idc" => some .idContinue
  | "xidstart" | "xids" => some .xidStart
  | "xidcontinue" | "xidc" => some .xidContinue
  | "ideographic" | "ideo" => some .ideographic
  | "joincontrol" | "joinc" => some .joinControl
  | "math" => some .math
  | "noncharactercodepoint" | "nchar" => some .noncharacter
  | "patternwhitespace" | "patws" => some .patternWhiteSpace
  | "quotationmark" | "qmark" => some .quotationMark
  | "radical" => some .radical
  | "regionalindicator" | "ri" => some .regionalIndicator
  | "softdotted" | "sd" => some .softDotted
  | "unifiedideograph" | "uideo" => some .unifiedIdeograph
  | "variationselector" | "vs" => some .variationSelector
  | _ => none

end CharProperty

end TrafficGateway
