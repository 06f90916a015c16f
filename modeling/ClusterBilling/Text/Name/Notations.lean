import ClusterBilling.Text.Name.Table

/-! Names of characters from U+17000 up to U+1DFFF: music, mathematics and signs. -/
namespace ClusterBilling.Text.NameTable

def notations : NameTable where
  rows := [
    (0x18800, 768), (0x1aff0, 4), (0x1aff5, 7), (0x1affd, 2), (0x1b000, 291), (0x1b150, 3),
    (0x1b164, 4), (0x1bc00, 107), (0x1bc70, 13), (0x1bc80, 9), (0x1bc90, 10), (0x1bc9c, 8),
    (0x1cf00, 46), (0x1cf30, 23), (0x1cf50, 116), (0x1d000, 246), (0x1d100, 39), (0x1d129, 194),
    (0x1d200, 70), (0x1d2e0, 20), (0x1d300, 87), (0x1d360, 25), (0x1d400, 85), (0x1d456, 71),
    (0x1d49e, 2), (0x1d4a2, 1), (0x1d4a5, 2), (0x1d4a9, 4), (0x1d4ae, 12), (0x1d4bb, 1),
    (0x1d4bd, 7), (0x1d4c5, 65), (0x1d507, 4), (0x1d50d, 8), (0x1d516, 7), (0x1d51e, 28),
    (0x1d53b, 4), (0x1d540, 5), (0x1d546, 1), (0x1d54a, 7), (0x1d552, 340), (0x1d6a8, 292),
    (0x1d7ce, 702), (0x1da9b, 5), (0x1daa1, 15), (0x1df00, 31)]
  entries := [
    "aaTANGUT COMPONENT-001baCOMPONENT-002baCOMPONENT-003baCOMPONENT-004baCOMPONENT-005",
    "baCOMPONENT-006baCOMPONENT-007baCOMPONENT-008baCOMPONENT-009baCOMPONENT-010baCOMPONENT-011",
    "baCOMPONENT-012baCOMPONENT-013baCOMPONENT-014baCOMPONENT-015baCOMPONENT-016baCOMPONENT-017",
    "baCOMPONENT-018baCOMPONENT-019baCOMPONENT-020baCOMPONENT-021baCOMPONENT-022baCOMPONENT-023",
    "baCOMPONENT-024baCOMPONENT-025baCOMPONENT-026baCOMPONENT-027baCOMPONENT-028baCOMPONENT-029",
    "baCOMPONENT-030baCOMPONENT-031baCOMPONENT-032baCOMPONENT-033baCOMPONENT-034baCOMPONENT-035",
    "baCOMPONENT-036baCOMPONENT-037baCOMPONENT-038baCOMPONENT-039baCOMPONENT-040baCOMPONENT-041",
    "baCOMPONENT-042baCOMPONENT-043baCOMPONENT-044baCOMPONENT-045baCOMPONENT-046baCOMPONENT-047",
    "baCOMPONENT-048baCOMPONENT-049baCOMPONENT-050baCOMPONENT-051baCOMPONENT-052baCOMPONENT-053",
    "baCOMPONENT-054baCOMPONENT-055baCOMPONENT-056baCOMPONENT-057baCOMPONENT-058baCOMPONENT-059",
    "baCOMPONENT-060baCOMPONENT-061baCOMPONENT-062baCOMPONENT-063baCOMPONENT-064baCOMPONENT-065",
    "baCOMPONENT-066baCOMPONENT-067baCOMPONENT-068baCOMPONENT-069baCOMPONENT-070baCOMPONENT-071",
    "baCOMPONENT-072baCOMPONENT-073baCOMPONENT-074baCOMPONENT-075baCOMPONENT-076baCOMPONENT-077",
    "baCOMPONENT-078baCOMPONENT-079baCOMPONENT-080baCOMPONENT-081baCOMPONENT-082baCOMPONENT-083",
    "baCOMPONENT-084baCOMPONENT-085baCOMPONENT-086baCOMPONENT-087baCOMPONENT-088baCOMPONENT-089",
    "baCOMPONENT-090baCOMPONENT-091baCOMPONENT-092baCOMPONENT-093baCOMPONENT-094baCOMPONENT-095",
    "baCOMPONENT-096baCOMPONENT-097baCOMPONENT-098baCOMPONENT-099baCOMPONENT-100baCOMPONENT-101",
    "baCOMPONENT-102baCOMPONENT-103baCOMPONENT-104baCOMPONENT-105baCOMPONENT-106baCOMPONENT-107",
    "baCOMPONENT-108baCOMPONENT-109baCOMPONENT-110baCOMPONENT-111baCOMPONENT-112baCOMPONENT-113",
    "baCOMPONENT-114baCOMPONENT-115baCOMPONENT-116baCOMPONENT-117baCOMPONENT-118baCOMPONENT-119",
    "baCOMPONENT-120baCOMPONENT-121baCOMPONENT-122baCOMPONENT-123baCOMPONENT-124baCOMPONENT-125",
    "baCOMPONENT-126baCOMPONENT-127baCOMPONENT-128baCOMPONENT-129baCOMPONENT-130baCOMPONENT-131",
    "baCOMPONENT-132baCOMPONENT-133baCOMPONENT-134baCOMPONENT-135baCOMPONENT-136baCOMPONENT-137",
    "baCOMPONENT-138baCOMPONENT-139baCOMPONENT-140baCOMPONENT-141baCOMPONENT-142baCOMPONENT-143",
    "baCOMPONENT-144baCOMPONENT-145baCOMPONENT-146baCOMPONENT-147baCOMPONENT-148baCOMPONENT-149",
    "baCOMPONENT-150baCOMPONENT-151baCOMPONENT-152baCOMPONENT-153baCOMPONENT-154baCOMPONENT-155",
    "baCOMPONENT-156baCOMPONENT-157baCOMPONENT-158baCOMPONENT-159baCOMPONENT-160baCOMPONENT-161",
    "baCOMPONENT-162baCOMPONENT-163baCOMPONENT-164baCOMPONENT-165baCOMPONENT-166baCOMPONENT-167",
    "baCOMPONENT-168baCOMPONENT-169baCOMPONENT-170baCOMPONENT-171baCOMPONENT-172baCOMPONENT-173",
    "baCOMPONENT-174baCOMPONENT-175baCOMPONENT-176baCOMPONENT-177baCOMPONENT-178baCOMPONENT-179",
    "baCOMPONENT-180baCOMPONENT-181baCOMPONENT-182baCOMPONENT-183baCOMPONENT-184baCOMPONENT-185",
    "baCOMPONENT-186baCOMPONENT-187baCOMPONENT-188baCOMPONENT-189baCOMPONENT-190baCOMPONENT-191",
    "baCOMPONENT-192baCOMPONENT-193baCOMPONENT-194baCOMPONENT-195baCOMPONENT-196baCOMPONENT-197",
    "baCOMPONENT-198baCOMPONENT-199baCOMPONENT-200baCOMPONENT-201baCOMPONENT-202baCOMPONENT-203",
    "baCOMPONENT-204baCOMPONENT-205baCOMPONENT-206baCOMPONENT-207baCOMPONENT-208baCOMPONENT-209",
    "baCOMPONENT-210baCOMPONENT-211baCOMPONENT-212baCOMPONENT-213baCOMPONENT-214baCOMPONENT-215",
    "baCOMPONENT-216baCOMPONENT-217baCOMPONENT-218baCOMPONENT-219baCOMPONENT-220baCOMPONENT-221",
    "baCOMPONENT-222baCOMPONENT-223baCOMPONENT-224baCOMPONENT-225baCOMPONENT-226baCOMPONENT-227",
    "baCOMPONENT-228baCOMPONENT-229baCOMPONENT-230baCOMPONENT-231baCOMPONENT-232baCOMPONENT-233",
    "baCOMPONENT-234baCOMPONENT-235baCOMPONENT-236baCOMPONENT-237baCOMPONENT-238baCOMPONENT-239",
    "baCOMPONENT-240baCOMPONENT-241baCOMPONENT-242baCOMPONENT-243baCOMPONENT-244baCOMPONENT-245",
    "baCOMPONENT-246baCOMPONENT-247baCOMPONENT-248baCOMPONENT-249baCOMPONENT-250baCOMPONENT-251",
    "baCOMPONENT-252baCOMPONENT-253baCOMPONENT-254baCOMPONENT-255baCOMPONENT-256baCOMPONENT-257",
    "baCOMPONENT-258baCOMPONENT-259baCOMPONENT-260baCOMPONENT-261baCOMPONENT-262baCOMPONENT-263",
    "baCOMPONENT-264baCOMPONENT-265baCOMPONENT-266baCOMPONENT-267baCOMPONENT-268baCOMPONENT-269",
    "baCOMPONENT-270baCOMPONENT-271baCOMPONENT-272baCOMPONENT-273baCOMPONENT-274baCOMPONENT-275",
    "baCOMPONENT-276baCOMPONENT-277baCOMPONENT-278baCOMPONENT-279baCOMPONENT-280baCOMPONENT-281",
    "baCOMPONENT-282baCOMPONENT-283baCOMPONENT-284baCOMPONENT-285baCOMPONENT-286baCOMPONENT-287",
    "baCOMPONENT-288baCOMPONENT-289baCOMPONENT-290baCOMPONENT-291baCOMPONENT-292baCOMPONENT-293",
    "baCOMPONENT-294baCOMPONENT-295baCOMPONENT-296baCOMPONENT-297baCOMPONENT-298baCOMPONENT-299",
    "baCOMPONENT-300baCOMPONENT-301baCOMPONENT-302baCOMPONENT-303baCOMPONENT-304baCOMPONENT-305",
    "baCOMPONENT-306baCOMPONENT-307baCOMPONENT-308baCOMPONENT-309baCOMPONENT-310baCOMPONENT-311",
    "baCOMPONENT-312baCOMPONENT-313baCOMPONENT-314baCOMPONENT-315baCOMPONENT-316baCOMPONENT-317",
    "baCOMPONENT-318baCOMPONENT-319baCOMPONENT-320baCOMPONENT-321baCOMPONENT-322baCOMPONENT-323",
    "baCOMPONENT-324baCOMPONENT-325baCOMPONENT-326baCOMPONENT-327baCOMPONENT-328baCOMPONENT-329",
    "baCOMPONENT-330baCOMPONENT-331baCOMPONENT-332baCOMPONENT-333baCOMPONENT-334baCOMPONENT-335",
    "baCOMPONENT-336baCOMPONENT-337baCOMPONENT-338baCOMPONENT-339baCOMPONENT-340baCOMPONENT-341",
    "baCOMPONENT-342baCOMPONENT-343baCOMPONENT-344baCOMPONENT-345baCOMPONENT-346baCOMPONENT-347",
    "baCOMPONENT-348baCOMPONENT-349baCOMPONENT-350baCOMPONENT-351baCOMPONENT-352baCOMPONENT-353",
    "baCOMPONENT-354baCOMPONENT-355baCOMPONENT-356baCOMPONENT-357baCOMPONENT-358baCOMPONENT-359",
    "baCOMPONENT-360baCOMPONENT-361baCOMPONENT-362baCOMPONENT-363baCOMPONENT-364baCOMPONENT-365",
    "baCOMPONENT-366baCOMPONENT-367baCOMPONENT-368baCOMPONENT-369baCOMPONENT-370baCOMPONENT-371",
    "baCOMPONENT-372baCOMPONENT-373baCOMPONENT-374baCOMPONENT-375baCOMPONENT-376baCOMPONENT-377",
    "baCOMPONENT-378baCOMPONENT-379baCOMPONENT-380baCOMPONENT-381baCOMPONENT-382baCOMPONENT-383",
    "baCOMPONENT-384baCOMPONENT-385baCOMPONENT-386baCOMPONENT-387baCOMPONENT-388baCOMPONENT-389",
    "baCOMPONENT-390baCOMPONENT-391baCOMPONENT-392baCOMPONENT-393baCOMPONENT-394baCOMPONENT-395",
    "baCOMPONENT-396baCOMPONENT-397baCOMPONENT-398baCOMPONENT-399baCOMPONENT-400baCOMPONENT-401",
    "baCOMPONENT-402baCOMPONENT-403baCOMPONENT-404baCOMPONENT-405baCOMPONENT-406baCOMPONENT-407",
    "baCOMPONENT-408baCOMPONENT-409baCOMPONENT-410baCOMPONENT-411baCOMPONENT-412baCOMPONENT-413",
    "baCOMPONENT-414baCOMPONENT-415baCOMPONENT-416baCOMPONENT-417baCOMPONENT-418baCOMPONENT-419",
    "baCOMPONENT-420baCOMPONENT-421baCOMPONENT-422baCOMPONENT-423baCOMPONENT-424baCOMPONENT-425",
    "baCOMPONENT-426baCOMPONENT-427baCOMPONENT-428baCOMPONENT-429baCOMPONENT-430baCOMPONENT-431",
    "baCOMPONENT-432baCOMPONENT-433baCOMPONENT-434baCOMPONENT-435baCOMPONENT-436baCOMPONENT-437",
    "baCOMPONENT-438baCOMPONENT-439baCOMPONENT-440baCOMPONENT-441baCOMPONENT-442baCOMPONENT-443",
    "baCOMPONENT-444baCOMPONENT-445baCOMPONENT-446baCOMPONENT-447baCOMPONENT-448baCOMPONENT-449",
    "baCOMPONENT-450baCOMPONENT-451baCOMPONENT-452baCOMPONENT-453baCOMPONENT-454baCOMPONENT-455",
    "baCOMPONENT-456baCOMPONENT-457baCOMPONENT-458baCOMPONENT-459baCOMPONENT-460baCOMPONENT-461",
    "baCOMPONENT-462baCOMPONENT-463baCOMPONENT-464baCOMPONENT-465baCOMPONENT-466baCOMPONENT-467",
    "baCOMPONENT-468baCOMPONENT-469baCOMPONENT-470baCOMPONENT-471baCOMPONENT-472baCOMPONENT-473",
    "baCOMPONENT-474baCOMPONENT-475baCOMPONENT-476baCOMPONENT-477baCOMPONENT-478baCOMPONENT-479",
    "baCOMPONENT-480baCOMPONENT-481baCOMPONENT-482baCOMPONENT-483baCOMPONENT-484baCOMPONENT-485",
    "baCOMPONENT-486baCOMPONENT-487baCOMPONENT-488baCOMPONENT-489baCOMPONENT-490baCOMPONENT-491",
    "baCOMPONENT-492baCOMPONENT-493baCOMPONENT-494baCOMPONENT-495baCOMPONENT-496baCOMPONENT-497",
    "baCOMPONENT-498baCOMPONENT-499baCOMPONENT-500baCOMPONENT-501baCOMPONENT-502baCOMPONENT-503",
    "baCOMPONENT-504baCOMPONENT-505baCOMPONENT-506baCOMPONENT-507baCOMPONENT-508baCOMPONENT-509",
    "baCOMPONENT-510baCOMPONENT-511baCOMPONENT-512baCOMPONENT-513baCOMPONENT-514baCOMPONENT-515",
    "baCOMPONENT-516baCOMPONENT-517baCOMPONENT-518baCOMPONENT-519baCOMPONENT-520baCOMPONENT-521",
    "baCOMPONENT-522baCOMPONENT-523baCOMPONENT-524baCOMPONENT-525baCOMPONENT-526baCOMPONENT-527",
    "baCOMPONENT-528baCOMPONENT-529baCOMPONENT-530baCOMPONENT-531baCOMPONENT-532baCOMPONENT-533",
    "baCOMPONENT-534baCOMPONENT-535baCOMPONENT-536baCOMPONENT-537baCOMPONENT-538baCOMPONENT-539",
    "baCOMPONENT-540baCOMPONENT-541baCOMPONENT-542baCOMPONENT-543baCOMPONENT-544baCOMPONENT-545",
    "baCOMPONENT-546baCOMPONENT-547baCOMPONENT-548baCOMPONENT-549baCOMPONENT-550baCOMPONENT-551",
    "baCOMPONENT-552baCOMPONENT-553baCOMPONENT-554baCOMPONENT-555baCOMPONENT-556baCOMPONENT-557",
    "baCOMPONENT-558baCOMPONENT-559baCOMPONENT-560baCOMPONENT-561baCOMPONENT-562baCOMPONENT-563",
    "baCOMPONENT-564baCOMPONENT-565baCOMPONENT-566baCOMPONENT-567baCOMPONENT-568baCOMPONENT-569",
    "baCOMPONENT-570baCOMPONENT-571baCOMPONENT-572baCOMPONENT-573baCOMPONENT-574baCOMPONENT-575",
    "baCOMPONENT-576baCOMPONENT-577baCOMPONENT-578baCOMPONENT-579baCOMPONENT-580baCOMPONENT-581",
    "baCOMPONENT-582baCOMPONENT-583baCOMPONENT-584baCOMPONENT-585baCOMPONENT-586baCOMPONENT-587",
    "baCOMPONENT-588baCOMPONENT-589baCOMPONENT-590baCOMPONENT-591baCOMPONENT-592baCOMPONENT-593",
    "baCOMPONENT-594baCOMPONENT-595baCOMPONENT-596baCOMPONENT-597baCOMPONENT-598baCOMPONENT-599",
    "baCOMPONENT-600baCOMPONENT-601baCOMPONENT-602baCOMPONENT-603baCOMPONENT-604baCOMPONENT-605",
    "baCOMPONENT-606baCOMPONENT-607baCOMPONENT-608baCOMPONENT-609baCOMPONENT-610baCOMPONENT-611",
    "baCOMPONENT-612baCOMPONENT-613baCOMPONENT-614baCOMPONENT-615baCOMPONENT-616baCOMPONENT-617",
    "baCOMPONENT-618baCOMPONENT-619baCOMPONENT-620baCOMPONENT-621baCOMPONENT-622baCOMPONENT-623",
    "baCOMPONENT-624baCOMPONENT-625baCOMPONENT-626baCOMPONENT-627baCOMPONENT-628baCOMPONENT-629",
    "baCOMPONENT-630baCOMPONENT-631baCOMPONENT-632baCOMPONENT-633baCOMPONENT-634baCOMPONENT-635",
    "baCOMPONENT-636baCOMPONENT-637baCOMPONENT-638baCOMPONENT-639baCOMPONENT-640baCOMPONENT-641",
    "baCOMPONENT-642baCOMPONENT-643baCOMPONENT-644baCOMPONENT-645baCOMPONENT-646baCOMPONENT-647",
    "baCOMPONENT-648baCOMPONENT-649baCOMPONENT-650baCOMPONENT-651baCOMPONENT-652baCOMPONENT-653",
    "baCOMPONENT-654baCOMPONENT-655baCOMPONENT-656baCOMPONENT-657baCOMPONENT-658baCOMPONENT-659",
    "baCOMPONENT-660baCOMPONENT-661baCOMPONENT-662baCOMPONENT-663baCOMPONENT-664baCOMPONENT-665",
    "baCOMPONENT-666baCOMPONENT-667baCOMPONENT-668baCOMPONENT-669baCOMPONENT-670baCOMPONENT-671",
    "baCOMPONENT-672baCOMPONENT-673baCOMPONENT-674baCOMPONENT-675baCOMPONENT-676baCOMPONENT-677",
    "baCOMPONENT-678baCOMPONENT-679baCOMPONENT-680baCOMPONENT-681baCOMPONENT-682baCOMPONENT-683",
    "baCOMPONENT-684baCOMPONENT-685baCOMPONENT-686baCOMPONENT-687baCOMPONENT-688baCOMPONENT-689",
    "baCOMPONENT-690baCOMPONENT-691baCOMPONENT-692baCOMPONENT-693baCOMPONENT-694baCOMPONENT-695",
    "baCOMPONENT-696baCOMPONENT-697baCOMPONENT-698baCOMPONENT-699baCOMPONENT-700baCOMPONENT-701",
    "baCOMPONENT-702baCOMPONENT-703baCOMPONENT-704baCOMPONENT-705baCOMPONENT-706baCOMPONENT-707",
    "baCOMPONENT-708baCOMPONENT-709baCOMPONENT-710baCOMPONENT-711baCOMPONENT-712baCOMPONENT-713",
    "baCOMPONENT-714baCOMPONENT-715baCOMPONENT-716baCOMPONENT-717baCOMPONENT-718baCOMPONENT-719",
    "baCOMPONENT-720baCOMPONENT-721baCOMPONENT-722baCOMPONENT-723baCOMPONENT-724baCOMPONENT-725",
    "baCOMPONENT-726baCOMPONENT-727baCOMPONENT-728baCOMPONENT-729baCOMPONENT-730baCOMPONENT-731",
    "baCOMPONENT-732baCOMPONENT-733baCOMPONENT-734baCOMPONENT-735baCOMPONENT-736baCOMPONENT-737",
    "baCOMPONENT-738baCOMPONENT-739baCOMPONENT-740baCOMPONENT-741baCOMPONENT-742baCOMPONENT-743",
    "baCOMPONENT-744baCOMPONENT-745baCOMPONENT-746baCOMPONENT-747baCOMPONENT-748baCOMPONENT-749",
    "baCOMPONENT-750baCOMPONENT-751baCOMPONENT-752baCOMPONENT-753baCOMPONENT-754baCOMPONENT-755",
    "baCOMPONENT-756baCOMPONENT-757baCOMPONENT-758baCOMPONENT-759baCOMPONENT-760baCOMPONENT-761",
    "baCOMPONENT-762baCOMPONENT-763baCOMPONENT-764baCOMPONENT-765baCOMPONENT-766baCOMPONENT-767",
    "baCOMPONENT-768aaKATAKANA LETTER MINNAN TONE-2daTONE-3daTONE-4daTONE-5daTONE-7daTONE-8",
    "daNASALIZED TONE-1eaTONE-2eaTONE-3eaTONE-4eaTONE-5eaTONE-7eaTONE-8caARCHAIC E",
    "aaHIRAGANA LETTER ARCHAIC YEaaHENTAIGANA LETTER A-1caA-2caA-3caA-WOcaI-1caI-2caI-3caI-4caU-1",
    "caU-2caU-3caU-4caU-5caE-2caE-3caE-4caE-5caE-6caO-1caO-2caO-3caKA-1caKA-2caKA-3caKA-4caKA-5",
    "caKA-6caKA-7caKA-8caKA-9caKA-10caKA-11caKA-KEcaKI-1caKI-2caKI-3caKI-4caKI-5caKI-6caKI-7caKI-8",
    "caKU-1caKU-2caKU-3caKU-4caKU-5caKU-6caKU-7caKE-1caKE-2caKE-3caKE-4caKE-5caKE-6caKO-1caKO-2",
    "caKO-3caKO-KIcaSA-1caSA-2caSA-3caSA-4caSA-5caSA-6caSA-7caSA-8caSI-1caSI-2caSI-3caSI-4caSI-5",
    "caSI-6caSU-1caSU-2caSU-3caSU-4caSU-5caSU-6caSU-7caSU-8caSE-1caSE-2caSE-3caSE-4caSE-5caSO-1",
    "caSO-2caSO-3caSO-4caSO-5caSO-6caSO-7caTA-1caTA-2caTA-3caTA-4caTI-1caTI-2caTI-3caTI-4caTI-5",
    "caTI-6caTI-7caTU-1caTU-2caTU-3caTU-4caTU-TOcaTE-1caTE-2caTE-3caTE-4caTE-5caTE-6caTE-7caTE-8",
    "caTE-9caTO-1caTO-2caTO-3caTO-4caTO-5caTO-6caTO-RAcaNA-1caNA-2caNA-3caNA-4caNA-5caNA-6caNA-7",
    "caNA-8caNA-9caNI-1caNI-2caNI-3caNI-4caNI-5caNI-6caNI-7caNI-TEcaNU-1caNU-2caNU-3caNE-1caNE-2",
    "caNE-3caNE-4caNE-5caNE-6caNE-KOcaNO-1caNO-2caNO-3caNO-4caNO-5caHA-1caHA-2caHA-3caHA-4caHA-5",
    "caHA-6caHA-7caHA-8caHA-9caHA-10caHA-11caHI-1caHI-2caHI-3caHI-4caHI-5caHI-6caHI-7caHU-1caHU-2",
    "caHU-3caHE-1caHE-2caHE-3caHE-4caHE-5caHE-6caHE-7caHO-1caHO-2caHO-3caHO-4caHO-5caHO-6caHO-7",
    "caHO-8caMA-1caMA-2caMA-3caMA-4caMA-5caMA-6caMA-7caMI-1caMI-2caMI-3caMI-4caMI-5caMI-6caMI-7",
    "caMU-1caMU-2caMU-3caMU-4caME-1caME-2caME-MAcaMO-1caMO-2caMO-3caMO-4caMO-5caMO-6caYA-1caYA-2",
    "caYA-3caYA-4caYA-5caYA-YOcaYU-1caYU-2caYU-3caYU-4caYO-1caYO-2caYO-3caYO-4caYO-5caYO-6caRA-1",
    "caRA-2caRA-3caRA-4caRI-1caRI-2caRI-3caRI-4caRI-5caRI-6caRI-7caRU-1caRU-2caRU-3caRU-4caRU-5",
    "caRU-6caRE-1caRE-2caRE-3caRE-4caRO-1caRO-2caRO-3caRO-4caRO-5caRO-6caWA-1caWA-2caWA-3caWA-4",
    "caWA-5caWI-1caWI-2caWI-3caWI-4caWI-5caWE-1caWE-2caWE-3caWE-4caWO-1caWO-2caWO-3caWO-4caWO-5",
    "caWO-6caWO-7caN-MU-MO-1caN-MU-MO-2aaHIRAGANA LETTER ARCHAIC WUaaKATAKANA LETTER ARCHAIC YI",
    "daYEdaWUaaHIRAGANA LETTER SMALL WIdaWEdaWOaaKATAKANA LETTER SMALL WIdaWEdaWOdaN",
    "aaDUPLOYAN LETTER HcaXcaPcaTcaFcaKcaLcaBcaDcaVcaGcaRcaP NcaD ScaF NcaK McaR ScaTHcaSLOAN DHcb",
    "caKKcaSLOAN JcaHLcaLHcaRHcaMcaNcaJcaScaM NcaN McbJcaS JcaM WITH DOTccNccJ",
    "eaDOTS INSIDE AND ABOVEcaS WITH DOTfaBELOWcaM ScbNcbJcbScbM NcbN MccJcbS JcaJ S WITH DOTdaN",
    "eaScaS TeaRdaPeaRcaT SdbRcaWcaWHcaW RcaS NdaMcaK R SccGcaS KeaRcaAcaSLOAN OWcaOAcaOcaAOUcaI",
    "caEcaIEcaSHORT IcaUIcaEEcaSLOAN EHcaROMANIAN IcaSLOAN EEcaLONG IcaYEcaUcaEUcaXWcaU NcaLONG U",
    "cbROMANIANcaUHcaSLOAN UcaOOHcaOWcaOUcaWAcaWOcaWIcaWEIcaWOWcaNASAL UdaOdaIdaAcaPERNIN ANdaAM",
    "caSLOAN ENdaANdaONcaVOCALIC MbaAFFIX LEFT HORIZONTAL SECANTccMIDccRIGHTcbLOW VERTICALccMID",
    "ccHIGHcbATTACHEDdbLEFT-TO-RIGHTdaTANGENTdaTAILdaE HOOKdbIdbTANGENTcaHIGH ACUTEdbTIGHTdaGRAVE",
    "dbLONGdaDOTdaCIRCLEdaLINEdaWAVEdaVERTICALcaLOW ACUTEdbTIGHTdaGRAVEdbLONGdaDOTdaCIRCLEdaLINE",
    "daWAVEdaVERTICALdaARROWbaSIGN O WITH CROSSbaTHICK LETTER SELECTORbaDOUBLE MARK",
    "baPUNCTUATION CHINOOK FULL STOPaaSHORTHAND FORMAT LETTER OVERLAPcbCONTINUINGcaDOWN STEPcbUP",
    "aaZNAMENNY COMBINING MARK GORAZDO NIZKO S KRYZHEM ON LEFTdfdcTSATAdcGORAZDO NIZKOdddcSREDNE",
    "dcMALO POVYSHEdddcVYSOKOdcMALO POVYSHE S KHOKHLOMdfdeVYSOKOdaGORAZDO NIZKO S KRYZHEM ON RIGHT",
    "dfdcTSATAdcGORAZDO NIZKOdddcSREDNEdcMALO POVYSHEdddcVYSOKOdcMALO POVYSHE S KHOKHLOMdfdeVYSOKO",
    "daTSATA S KRYZHEMdcMALO POVYSHEdaSTRANNO MALO POVYSHEdaPOVYSHE S KRYZHEMeaSTRANNO",
    "daVYSOKO S KRYZHEMdaMALO POVYSHE STRANNOdaGORAZDO VYSOKOdaZELOdaONdaRAVNOdaTIKHAYAdaBORZAYA",
    "daUDARKAdaPODVERTKAdaLOMKAdaKUPNAYAdaKACHKAdaZEVOKdaSKOBAdaRAZSEKAdaKRYZH ON LEFT",
    "caTONAL RANGE MARK MRACHNOfaSVETLOfaTRESVETLOcaMARK ZADERZHKAdbDEMESTVENNYdaOTSECHKA",
    "daPODCHASHIEeaWITH VERTICAL STROKEdaCHASHKAeaPOLNAYAdaOBLACHKOdaSOROCHYA NOZHKAdaTOCHKA",
    "daDVOETOCHIEcaATTACHING VERTICAL OMETcbMARK CURVEDdaKRYZHcaLOWER TONAL RANGE INDICATOR",
    "baPRIZNAK MODIFIER LEVEL-2daLEVEL-3daDIRECTION FLIPdaKRYZHdaROGbaNEUME KRYUKdaTIKHYcaPARAKLIT",
    "caDVA V CHELNUcaKLYUCHcaZANOZHEKcaSTOPITSAdaS OCHKOMcaPEREVODKAdaNEPOSTOYANNAYA",
    "caSTOPITSA WITH SOROCHYA NOZHKAcaCHELYUSTKAcaPALKAcaZAPYATAYAcaGOLUBCHIK BORZYdaTIKHY",
    "daMRACHNYdaSVETLYdaTRESVETLYcaVRAKHIYA PROSTAYAdaMRACHNAYAdaSVETLAYAdaTRESVETLAYA",
    "daKLYUCHEVAYA PROSTAYAeaMRACHNAYAeaSVETLAYAeaTRESVETLAYAcaDOUBLE ZAPYATAYA",
    "caREVERSED CHELYUSTKAcaDERBITSAcaKHAMILOcaCHASHKAcaPODCHASHIEcaSKAMEYTSA MRACHNAYAdaSVETLAYA",
    "daTRESVETLAYAdaTIKHAYAcaDEMESTVENNY KLYUCHcaSKAMEYTSA KLYUCHEVAYA SVETLAYA",
    "daKLYUCHENEPOSTOYANNAYAdaKLYUCHEVAYA TIKHAYAdaDVOECHELNAYA PROSTAYAeaSVETLAYAeaNEPOSTOYANNAYA",
    "eaKLYUCHEVAYAcaSLOZHITIEdaS ZAPYATOYdaZAKRYTOEdaS KRYZHEMcaKRYZHcaROGcaFITAcaKOBYLAcaZMEYTSA",
    "caSTATYAdaS ZAPYATOYeaKRYZHEMebZAPYATOY IeaKRYZHEM I ZAPYATOYdaZAKRYTAYAeaS ZAPYATOYdaS ROGOM",
    "eaDVUMYA ZAPYATYMIeaZAPYATOY I PODCHASHIEMcaPOLKULIZMYcaSTATYA NEPOSTOYANNAYA",
    "caSTRELA PROSTAYAdaMRACHNOTIKHAYAdaKRYZHEVAYAdaPOLUPOVODNAYAdaPOVODNAYAdaNEPOSTOYANNAYA",
    "daKLYUCHEPOVODNAYAdaKLYUCHENEPOSTOYANNAYAdaTIKHAYA PUTNAYAdaDVOECHELNAYA",
    "daDVOECHELNOKRYZHEVAYAdaDVOECHELNOPOVODNAYAdaDVOECHELNAYA KLYUCHEVAYAdbDVOECHELNOPOVODNAYA",
    "daGROMNAYA WITH SINGLE ZAPYATAYAddGROMOPOVODNAYAdaGROMNAYAdaGROMOPOVODNAYA",
    "eaWITH DOUBLE ZAPYATAYAdaGROMOKRYZHEVAYAeaPOVODNAYAcaMECHIKdaPOVODNYdaKLYUCHEVOY",
    "daKLYUCHEPOVODNYdaKLYUCHENEPOSTOYANNYcaSTRELA TRYASOGLASNAYAdaTRYASOPOVODNAYA",
    "daTRYASOSTRELNAYAcaOSOKAdaSVETLAYAdaTRESVETLAYAdaKRYUKOVAYA SVETLAYAdbKLYUCHEVAYA",
    "eaNEPOSTOYANNAYAcaSTRELA KRYUKOVAYAeaPOVODNAYAeaGROMNAYA WITH SINGLE ZAPYATAYA",
    "edGROMOPOVODNAYAeaGROMNAYAeaGROMOPOVODNAYAfaWITH DOUBLE ZAPYATAYAeaGROMOKRYZHEVAYAfaPOVODNAYA",
    "eaTRYASKAcaKUFISMAcaOBLAKOcaDUDAcaNEMKAcaPAUKaaBYZANTINE MUSICAL SYMBOL PSILIdaDASEIA",
    "daPERISPOMENIdaOXEIA EKFONITIKONeaDIPLIdaVAREIA EKFONITIKONeaDIPLIdaKATHISTIdaSYRMATIKI",
    "daPARAKLITIKIdaYPOKRISISeaDIPLIdaKREMASTIdaAPESO EKFONITIKONdbEXOdaTELEIAdaKENTIMATA",
    "daAPOSTROFOSeaDIPLIdaSYNEVMAdaTHITAdaOLIGON ARCHAIONdbGORGONdaPSILONdaCHAMILONdaVATHY",
    "daISON ARCHAIONdbKENTIMAdbKENTIMATAdaSAXIMATAdaPARICHONdaSTAVROS APODEXIAdaOXEIAI ARCHAION",
    "dbVAREIAIdbAPODERMAdaAPOTHEMAdaKLASMAdaREVMAdaPIASMA ARCHAIONdaTINAGMAdaANATRICHISMAdaSEISMA",
    "daSYNAGMA ARCHAIONeaMETA STAVROUdaOYRANISMA ARCHAIONdaTHEMAdaLEMOIdaDYOdaTRIAdaTESSERA",
    "daKRATIMATAdaAPESO EXO NEOdaFTHORA ARCHAIONdaIMIFTHORAdaTROMIKON ARCHAIONdaKATAVA TROMIKON",
    "daPELASTONdaPSIFISTONdaKONTEVMAdaCHOREVMA ARCHAIONdaRAPISMAdaPARAKALESMA ARCHAION",
    "dbPARAKLITIKIdaICHADINdaNANAdaPETASMAdaKONTEVMA ALLOdbTROMIKONdaSTRAGGISMATAdaGRONTHISMATA",
    "daISON NEOdbOLIGONdbOXEIAdaPETASTIdaKOUFISMAdaPETASTOKOUFISMAdaKRATIMOKOUFISMAdaPELASTON NEO",
    "daKENTIMATA NEO ANOdcKENTIMAdaYPSILIdaAPOSTROFOS NEOdbAPOSTROFOI SYNDESMOSdaYPORROI",
    "daKRATIMOYPORROONdaELAFRONdaCHAMILIdaMIKRON ISONdaVAREIA NEOdbPIASMAdbPSIFISTONdaOMALON",
    "daANTIKENOMAdaLYGISMAdaPARAKLITIKI NEOdbPARAKALESMAdaETERON PARAKALESMAdaKYLISMA",
    "daANTIKENOKYLISMAdaTROMIKON NEOdaEKSTREPTONdaSYNAGMA NEOdaSYRMAdaCHOREVMA NEOdaEPEGERMA",
    "daSEISMA NEOdaXIRON KLASMAdaTROMIKOPSIFISTONdaPSIFISTOLYGISMAdaTROMIKOLYGISMA",
    "daTROMIKOPARAKALESMAdaPSIFISTOPARAKALESMAdaTROMIKOSYNAGMAdaPSIFISTOSYNAGMAdaGORGOSYNTHETON",
    "daARGOSYNTHETONdbETERONdaOYRANISMA NEOdaTHEMATISMOS ESOeaEXOdaTHEMA APLOUNdaTHES KAI APOTHES",
    "daKATAVASMAdaENDOFONONdaYFEN KATOeaANOdaSTAVROSdaKLASMA ANOdaDIPLI ARCHAIONdbKRATIMAeaALLO",
    "eaNEOdbAPODERMAdaAPLIdaDIPLIdaTRIPLIdaTETRAPLIdaKORONISdaLEIMMA ENOS CHRONOUeaDYO CHRONON",
    "ebTRIONebTESSARONeaIMISEOS CHRONOUdaGORGON NEO ANOeaPARESTIGMENON ARISTERAfaDEXIAdaDIGORGON",
    "eaPARESTIGMENON ARISTERA KATOgaANOfaDEXIAdaTRIGORGONdaARGONdaIMIDIARGONdaDIARGON",
    "daAGOGI POLI ARGIeaARGOTERIeaARGIeaMETRIAeaMESIeaGORGIeaGORGOTERIeaPOLI GORGI",
    "daMARTYRIA PROTOS ICHOSecALLIebDEYTEROSecALLIebTRITOSeaTRIFONIASeaTETARTOS ICHOSfbLEGETOSec",
    "ebPLAGIOSdaISAKIA TELOUS ICHIMATOSdcAPOSTROFOIdaFANEROSIS TETRAFONIASeaMONOFONIASeaDIFONIAS",
    "daMARTYRIA VARYS ICHOSebPROTOVARYSebPLAGIOS TETARTOSdaGORTHMIKON N APLOUNfaDIPLOUN",
    "daENARXIS KAI FTHORA VOUdaIMIFONONdaIMIFTHORONdaFTHORA ARCHAION DEYTEROU ICHOUeaDIATONIKI PA",
    "faNANAeaNAOS ICHOSeaDIATONIKI DIebSKLIRON DIATONONeaDIATONIKI KEfaZOfaNI KATOgaANO",
    "eaMALAKON CHROMA DIFONIASgaMONOFONIASdaFHTORA SKLIRON CHROMA VASIS",
    "daFTHORA SKLIRON CHROMA SYNAFIeaNENANOdaCHROA ZYGOSeaKLITONeaSPATHI",
    "daFTHORA I YFESIS TETARTIMORIONeaENARMONIOS ANTIFONIAdaYFESIS TRITIMORIONdbDIESIS",
    "eaTETARTIMORIONeaAPLI DYO DODEKATAebMONOGRAMMOS TESSERAebDIGRAMMOS EXebTRIGRAMMOS OKTO",
    "dbYFESIS APLI DYOebMONOGRAMMOS TESSERAebDIGRAMMOS EXebTRIGRAMMOS OKTOdaGENIKI DIESISeaYFESIS",
    "daDIASTOLI APLI MIKRIfaMEGALIeaDIPLIeaTHESEOSdbSIMANSISfaDISIMOUfaTRISIMOUfaTETRASIMOU",
    "eaARSEOSfaDISIMOUfaTRISIMOUfaTETRASIMOUdaDIGRAMMA GGdaDIFTOGGOS OUdaSTIGMAdaARKTIKO PAeaVOU",
    "eaGAeaDIeaKEeaZOeaNIdaKENTIMATA NEO MESOdcKENTIMAdaKENTIMATA NEO KATOdcKENTIMAdbKLASMA",
    "dbGORGON NEOaaMUSICAL SYMBOL SINGLE BARLINEcbDOUBLEcbFINALccREVERSEcbDASHEDcbSHORT",
    "caLEFT REPEAT SIGNccRIGHTcaREPEAT DOTScaDAL SEGNOcaDA CAPOcaSEGNOcaCODAcaREPEATED FIGURE-1",
    "daFIGURE-2daFIGURE-3caFERMATAdaBELOWcaBREATH MARKcaCAESURAcaBRACEcaBRACKETcaONE-LINE STAFF",
    "cbTWO-LINEcbTHREE-LINEcbFOUR-LINEcbFIVE-LINEcbSIX-LINEcaSIX-STRING FRETBOARDcbFOUR-STRING",
    "caG CLEFeaOTTAVA ALTAfaBASSAcaC CLEFcbFeaOTTAVA ALTAfaBASSAcaDRUM CLEF-1daCLEF-2",
    "caMULTIPLE MEASURE RESTcaDOUBLE SHARPdaFLATcaFLAT UPdaDOWNcaNATURAL UPdaDOWNcaSHARP UPdaDOWN",
    "caQUARTER TONE SHARPeaFLATcaCOMMON TIMEcbCUTcaOTTAVA ALTAdaBASSAcaQUINDICESIMA ALTAdaBASSA",
    "caMULTI RESTcbWHOLEcbHALFcbQUARTERcbEIGHTHcbSIXTEENTHcbTHIRTY-SECONDcbSIXTY-FOURTH",
    "cbONE HUNDRED TWENTY-EIGHTHcaX NOTEHEADcbPLUScbCIRCLE XcaSQUARE NOTEHEAD WHITEeaBLACK",
    "caTRIANGLE NOTEHEAD UP WHITEfaBLACKeaLEFT WHITEfaBLACKeaRIGHT WHITEfaBLACKeaDOWN WHITEfaBLACK",
    "eaUP RIGHT WHITEgaBLACKcaMOON NOTEHEAD WHITEeaBLACKcaTRIANGLE-ROUND NOTEHEAD DOWN WHITE",
    "faBLACKcaPARENTHESIS NOTEHEADcbVOIDcaNOTEHEAD BLACKcaNULL NOTEHEADcaCLUSTER NOTEHEAD WHITE",
    "eaBLACKcaBREVEcaWHOLE NOTEcbHALFcbQUARTERcbEIGHTHcbSIXTEENTHcbTHIRTY-SECONDcbSIXTY-FOURTH",
    "cbONE HUNDRED TWENTY-EIGHTHcaCOMBINING STEMdbSPRECHGESANGdaTREMOLO-1daTREMOLO-2daTREMOLO-3",
    "caFINGERED TREMOLO-1daTREMOLO-2daTREMOLO-3caCOMBINING AUGMENTATION DOTdaFLAG-1daFLAG-2",
    "daFLAG-3daFLAG-4daFLAG-5caBEGIN BEAMcbENDcaBEGIN TIEcbENDcaBEGIN SLURcbENDcaBEGIN PHRASEcbEND",
    "caCOMBINING ACCENTdaSTACCATOdaTENUTOdaSTACCATISSIMOdaMARCATOdaMARCATO-STACCATO",
    "daACCENT-STACCATOdaLOUREcaARPEGGIATO UPdaDOWNcaCOMBINING DOITdaRIPdaFLIPdaSMEARdaBEND",
    "daDOUBLE TONGUEdbTRIPLEcaRINFORZANDOcaSUBITOcaZcaPIANOcaMEZZOcaFORTEcaCRESCENDOcaDECRESCENDO",
    "caGRACE NOTE SLASHebNOcaTRcaTURNcbINVERTEDcaTURN SLASHdaUPcaORNAMENT STROKE-1daSTROKE-2",
    "daSTROKE-3daSTROKE-4daSTROKE-5daSTROKE-6daSTROKE-7daSTROKE-8daSTROKE-9daSTROKE-10daSTROKE-11",
    "caHAUPTSTIMMEcaNEBENSTIMMEcaEND OF STIMMEcaDEGREE SLASHcaCOMBINING DOWN BOWdbUPdaHARMONIC",
    "daSNAP PIZZICATOcaPEDAL MARKdbUPcbHALF PEDALcaGLISSANDO UPdaDOWNcaWITH FINGERNAILScaDAMPdaALL",
    "caMAXIMAcaLONGAcaBREVIScaSEMIBREVIS WHITEdaBLACKcaMINIMAdaBLACKcaSEMIMINIMA WHITEdaBLACK",
    "caFUSA WHITEdaBLACKcaLONGA PERFECTA RESTdbIMPERFECTAcbBREVIScbSEMIBREVIScbMINIMAcbSEMIMINIMA",
    "caTEMPUS PERFECTUM CUM PROLATIONE PERFECTAgaIMPERFECTAgaPERFECTA DIMINUTION-1",
    "daIMPERFECTUM CUM PROLATIONE PERFECTAgaIMPERFECTAhaDIMINUTION-1haDIMINUTION-2haDIMINUTION-3",
    "caCROIXcaGREGORIAN C CLEFdbFcaSQUARE BcaVIRGAcaPODATUScaCLIVIScaSCANDICUScaCLIMACUScaTORCULUS",
    "caPORRECTUSdaFLEXUScbSCANDICUScaTORCULUS RESUPINUScaPES SUBPUNCTIScaKIEVAN C CLEF",
    "daEND OF PIECEdaFINAL NOTEdaRECITATIVE MARKdaWHOLE NOTEdbHALFdaQUARTER NOTE STEM DOWNgaUP",
    "daEIGHTH NOTE STEM DOWNgaUPdaFLAT SIGNcaSORIcaKORONaaGREEK VOCAL NOTATION SYMBOL-1daSYMBOL-2",
    "daSYMBOL-3daSYMBOL-4daSYMBOL-5daSYMBOL-6daSYMBOL-7daSYMBOL-8daSYMBOL-9daSYMBOL-10daSYMBOL-11",
    "daSYMBOL-12daSYMBOL-13daSYMBOL-14daSYMBOL-15daSYMBOL-16daSYMBOL-17daSYMBOL-18daSYMBOL-19",
    "daSYMBOL-20daSYMBOL-21daSYMBOL-22daSYMBOL-23daSYMBOL-24daSYMBOL-50daSYMBOL-51daSYMBOL-52",
    "daSYMBOL-53daSYMBOL-54baINSTRUMENTAL NOTATION SYMBOL-1daSYMBOL-2daSYMBOL-4daSYMBOL-5",
    "daSYMBOL-7daSYMBOL-8daSYMBOL-11daSYMBOL-12daSYMBOL-13daSYMBOL-14daSYMBOL-17daSYMBOL-18",
    "daSYMBOL-19daSYMBOL-23daSYMBOL-24daSYMBOL-25daSYMBOL-26daSYMBOL-27daSYMBOL-29daSYMBOL-30",
    "daSYMBOL-32daSYMBOL-36daSYMBOL-37daSYMBOL-38daSYMBOL-39daSYMBOL-40daSYMBOL-42daSYMBOL-43",
    "daSYMBOL-45daSYMBOL-47daSYMBOL-48daSYMBOL-49daSYMBOL-50daSYMBOL-51daSYMBOL-52daSYMBOL-53",
    "daSYMBOL-54aaCOMBINING GREEK MUSICAL TRISEMEdaTETRASEMEdaPENTASEMEaaGREEK MUSICAL LEIMMA",
    "aaMAYAN NUMERAL ZEROcaONEcaTWOcaTHREEcaFOURcaFIVEcaSIXcaSEVENcaEIGHTcaNINEcaTENcaELEVEN",
    "caTWELVEcaTHIRTEENcaFOURTEENcaFIFTEENcaSIXTEENcaSEVENTEENcaEIGHTEENcaNINETEEN",
    "aaMONOGRAM FOR EARTHabDIGRAM FOR HEAVENLYcbHUMANcaEARTHLY HEAVENdaHUMANcaEARTH",
    "aaTETRAGRAM FOR CENTREcaFULL CIRCLEcaMIREDcaBARRIERcaKEEPING SMALLcaCONTRARIETYcaASCENT",
    "caOPPOSITIONcaBRANCHING OUTcaDEFECTIVENESS OR DISTORTIONcaDIVERGENCEcaYOUTHFULNESScaINCREASE",
    "caPENETRATIONcaREACHcaCONTACTcaHOLDING BACKcaWAITINGcaFOLLOWINGcaADVANCEcaRELEASEcaRESISTANCE",
    "caEASEcaJOYcaCONTENTIONcaENDEAVOURcaDUTIEScaCHANGEcaDECISIVENESScaBOLD RESOLUTIONcaPACKING",
    "caLEGIONcaCLOSENESScaKINSHIPcaGATHERINGcaSTRENGTHcaPURITYcaFULLNESScaRESIDENCEcaLAW OR MODEL",
    "caRESPONSEcaGOING TO MEETcaENCOUNTERScaSTOVEcaGREATNESScaENLARGEMENTcaPATTERNcaRITUALcaFLIGHT",
    "caVASTNESS OR WASTINGcaCONSTANCYcaMEASUREcaETERNITYcaUNITYcaDIMINISHMENTcaCLOSED MOUTH",
    "caGUARDEDNESScaGATHERING INcaMASSINGcaACCUMULATIONcaEMBELLISHMENTcaDOUBTcaWATCHcaSINKING",
    "caINNERcaDEPARTUREcaDARKENINGcaDIMMINGcaEXHAUSTIONcaSEVERANCEcaSTOPPAGEcaHARDNESScaCOMPLETION",
    "caCLOSUREcaFAILUREcaAGGRAVATIONcaCOMPLIANCEcaON THE VERGEcaDIFFICULTIEScaLABOURINGcaFOSTERING",
    "aaCOUNTING ROD UNIT DIGIT ONEeaTWOeaTHREEeaFOUReaFIVEeaSIXeaSEVENeaEIGHTeaNINE",
    "caTENS DIGIT ONEeaTWOeaTHREEeaFOUReaFIVEeaSIXeaSEVENeaEIGHTeaNINEaaIDEOGRAPHIC TALLY MARK ONE",
    "daTWOdaTHREEdaFOURdaFIVEaaTALLY MARK ONEcaFIVEaaMATHEMATICAL BOLD CAPITAL AdaBdaCdaDdaEdaFdaG",
    "daHdaIdaJdaKdaLdaMdaNdaOdaPdaQdaRdaSdaTdaUdaVdaWdaXdaYdaZcaSMALL AdaBdaCdaDdaEdaFdaGdaHdaIdaJ",
    "daKdaLdaMdaNdaOdaPdaQdaRdaSdaTdaUdaVdaWdaXdaYdaZbaITALIC CAPITAL AdaBdaCdaDdaEdaFdaGdaHdaIdaJ",
    "daKdaLdaMdaNdaOdaPdaQdaRdaSdaTdaUdaVdaWdaXdaYdaZcaSMALL AdaBdaCdaDdaEdaFdaGdaIdaJdaKdaLdaMdaN",
    "daOdaPdaQdaRdaSdaTdaUdaVdaWdaXdaYdaZbaBOLD ITALIC CAPITAL AeaBeaCeaDeaEeaFeaGeaHeaIeaJeaKeaL",
    "eaMeaNeaOeaPeaQeaReaSeaTeaUeaVeaWeaXeaYeaZdaSMALL AeaBeaCeaDeaEeaFeaGeaHeaIeaJeaKeaLeaMeaNeaO",
    "eaPeaQeaReaSeaTeaUeaVeaWeaXeaYeaZbaSCRIPT CAPITAL AdaCdaDdaGdaJdaKdaNdaOdaPdaQdaSdaTdaUdaVdaW",
    "daXdaYdaZcaSMALL AdaBdaCdaDdaFdaHdaIdaJdaKdaLdaMdaNdaPdaQdaRdaSdaTdaUdaVdaWdaXdaYdaZ",
    "baBOLD SCRIPT CAPITAL AeaBeaCeaDeaEeaFeaGeaHeaIeaJeaKeaLeaMeaNeaOeaPeaQeaReaSeaTeaUeaVeaWeaX",
    "eaYeaZdaSMALL AeaBeaCeaDeaEeaFeaGeaHeaIeaJeaKeaLeaMeaNeaOeaPeaQeaReaSeaTeaUeaVeaWeaXeaYeaZ",
    "baFRAKTUR CAPITAL AdaBdaDdaEdaFdaGdaJdaKdaLdaMdaNdaOdaPdaQdaSdaTdaUdaVdaWdaXdaYcaSMALL AdaB",
    "daCdaDdaEdaFdaGdaHdaIdaJdaKdaLdaMdaNdaOdaPdaQdaRdaSdaTdaUdaVdaWdaXdaYdaZ",
    "baDOUBLE-STRUCK CAPITAL AdaBdaDdaEdaFdaGdaIdaJdaKdaLdaMdaOdaSdaTdaUdaVdaWdaXdaYcaSMALL AdaB",
    "daCdaDdaEdaFdaGdaHdaIdaJdaKdaLdaMdaNdaOdaPdaQdaRdaSdaTdaUdaVdaWdaXdaYdaZ",
    "baBOLD FRAKTUR CAPITAL AeaBeaCeaDeaEeaFeaGeaHeaIeaJeaKeaLeaMeaNeaOeaPeaQeaReaSeaTeaUeaVeaWeaX",
    "eaYeaZdaSMALL AeaBeaCeaDeaEeaFeaGeaHeaIeaJeaKeaLeaMeaNeaOeaPeaQeaReaSeaTeaUeaVeaWeaXeaYeaZ",
    "baSANS-SERIF CAPITAL AdaBdaCdaDdaEdaFdaGdaHdaIdaJdaKdaLdaMdaNdaOdaPdaQdaRdaSdaTdaUdaVdaWdaX",
    "daYdaZcaSMALL AdaBdaCdaDdaEdaFdaGdaHdaIdaJdaKdaLdaMdaNdaOdaPdaQdaRdaSdaTdaUdaVdaWdaXdaYdaZ",
    "caBOLD CAPITAL AeaBeaCeaDeaEeaFeaGeaHeaIeaJeaKeaLeaMeaNeaOeaPeaQeaReaSeaTeaUeaVeaWeaXeaYeaZ",
    "daSMALL AeaBeaCeaDeaEeaFeaGeaHeaIeaJeaKeaLeaMeaNeaOeaPeaQeaReaSeaTeaUeaVeaWeaXeaYeaZ",
    "caITALIC CAPITAL AeaBeaCeaDeaEeaFeaGeaHeaIeaJeaKeaLeaMeaNeaOeaPeaQeaReaSeaTeaUeaVeaWeaXeaYeaZ",
    "daSMALL AeaBeaCeaDeaEeaFeaGeaHeaIeaJeaKeaLeaMeaNeaOeaPeaQeaReaSeaTeaUeaVeaWeaXeaYeaZ",
    "caBOLD ITALIC CAPITAL AfaBfaCfaDfaEfaFfaGfaHfaIfaJfaKfaLfaMfaNfaOfaPfaQfaRfaSfaTfaUfaVfaWfaX",
    "faYfaZeaSMALL AfaBfaCfaDfaEfaFfaGfaHfaIfaJfaKfaLfaMfaNfaOfaPfaQfaRfaSfaTfaUfaVfaWfaXfaYfaZ",
    "baMONOSPACE CAPITAL AdaBdaCdaDdaEdaFdaGdaHdaIdaJdaKdaLdaMdaNdaOdaPdaQdaRdaSdaTdaUdaVdaWdaXdaY",
    "daZcaSMALL AdaBdaCdaDdaEdaFdaGdaHdaIdaJdaKdaLdaMdaNdaOdaPdaQdaRdaSdaTdaUdaVdaWdaXdaYdaZ",
    "baITALIC SMALL DOTLESS IeaJbaBOLD CAPITAL ALPHAdaBETAdaGAMMAdaDELTAdaEPSILONdaZETAdaETA",
    "daTHETAdaIOTAdaKAPPAdaLAMDAdaMUdaNUdaXIdaOMICRONdaPIdaRHOdaTHETA SYMBOLdaSIGMAdaTAUdaUPSILON",
    "daPHIdaCHIdaPSIdaOMEGAcaNABLAcaSMALL ALPHAdaBETAdaGAMMAdaDELTAdaEPSILONdaZETAdaETAdaTHETA",
    "daIOTAdaKAPPAdaLAMDAdaMUdaNUdaXIdaOMICRONdaPIdaRHOdaFINAL SIGMAdbdaTAUdaUPSILONdaPHIdaCHI",
    "daPSIdaOMEGAcaPARTIAL DIFFERENTIALcaEPSILON SYMBOLcbTHETAcbKAPPAcbPHIcbRHOcbPI",
    "baITALIC CAPITAL ALPHAdaBETAdaGAMMAdaDELTAdaEPSILONdaZETAdaETAdaTHETAdaIOTAdaKAPPAdaLAMDAdaMU",
    "daNUdaXIdaOMICRONdaPIdaRHOdaTHETA SYMBOLdaSIGMAdaTAUdaUPSILONdaPHIdaCHIdaPSIdaOMEGAcaNABLA",
    "caSMALL ALPHAdaBETAdaGAMMAdaDELTAdaEPSILONdaZETAdaETAdaTHETAdaIOTAdaKAPPAdaLAMDAdaMUdaNUdaXI",
    "daOMICRONdaPIdaRHOdaFINAL SIGMAdbdaTAUdaUPSILONdaPHIdaCHIdaPSIdaOMEGAcaPARTIAL DIFFERENTIAL",
    "caEPSILON SYMBOLcbTHETAcbKAPPAcbPHIcbRHOcbPIbaBOLD ITALIC CAPITAL ALPHAeaBETAeaGAMMAeaDELTA",
    "eaEPSILONeaZETAeaETAeaTHETAeaIOTAeaKAPPAeaLAMDAeaMUeaNUeaXIeaOMICRONeaPIeaRHOeaTHETA SYMBOL",
    "eaSIGMAeaTAUeaUPSILONeaPHIeaCHIeaPSIeaOMEGAdaNABLAdaSMALL ALPHAeaBETAeaGAMMAeaDELTAeaEPSILON",
    "eaZETAeaETAeaTHETAeaIOTAeaKAPPAeaLAMDAeaMUeaNUeaXIeaOMICRONeaPIeaRHOeaFINAL SIGMAebeaTAU",
    "eaUPSILONeaPHIeaCHIeaPSIeaOMEGAdaPARTIAL DIFFERENTIALdaEPSILON SYMBOLdbTHETAdbKAPPAdbPHIdbRHO",
    "dbPIbaSANS-SERIF BOLD CAPITAL ALPHAeaBETAeaGAMMAeaDELTAeaEPSILONeaZETAeaETAeaTHETAeaIOTA",
    "eaKAPPAeaLAMDAeaMUeaNUeaXIeaOMICRONeaPIeaRHOeaTHETA SYMBOLeaSIGMAeaTAUeaUPSILONeaPHIeaCHI",
    "eaPSIeaOMEGAdaNABLAdaSMALL ALPHAeaBETAeaGAMMAeaDELTAeaEPSILONeaZETAeaETAeaTHETAeaIOTAeaKAPPA",
    "eaLAMDAeaMUeaNUeaXIeaOMICRONeaPIeaRHOeaFINAL SIGMAebeaTAUeaUPSILONeaPHIeaCHIeaPSIeaOMEGA",
    "daPARTIAL DIFFERENTIALdaEPSILON SYMBOLdbTHETAdbKAPPAdbPHIdbRHOdbPIdaITALIC CAPITAL ALPHA",
    "faBETAfaGAMMAfaDELTAfaEPSILONfaZETAfaETAfaTHETAfaIOTAfaKAPPAfaLAMDAfaMUfaNUfaXIfaOMICRONfaPI",
    "faRHOfaTHETA SYMBOLfaSIGMAfaTAUfaUPSILONfaPHIfaCHIfaPSIfaOMEGAeaNABLAeaSMALL ALPHAfaBETA",
    "faGAMMAfaDELTAfaEPSILONfaZETAfaETAfaTHETAfaIOTAfaKAPPAfaLAMDAfaMUfaNUfaXIfaOMICRONfaPIfaRHO",
    "faFINAL SIGMAfbfaTAUfaUPSILONfaPHIfaCHIfaPSIfaOMEGAeaPARTIAL DIFFERENTIALeaEPSILON SYMBOL",
    "ebTHETAebKAPPAebPHIebRHOebPIbaBOLD CAPITAL DIGAMMAcbSMALLcaDIGIT ZEROdaONEdaTWOdaTHREEdaFOUR",
    "daFIVEdaSIXdaSEVENdaEIGHTdaNINEbaDOUBLE-STRUCK DIGIT ZEROdaONEdaTWOdaTHREEdaFOURdaFIVEdaSIX",
    "daSEVENdaEIGHTdaNINEbaSANS-SERIF DIGIT ZEROdaONEdaTWOdaTHREEdaFOURdaFIVEdaSIXdaSEVENdaEIGHT",
    "daNINEcaBOLD DIGIT ZEROeaONEeaTWOeaTHREEeaFOUReaFIVEeaSIXeaSEVENeaEIGHTeaNINE",
    "baMONOSPACE DIGIT ZEROdaONEdaTWOdaTHREEdaFOURdaFIVEdaSIXdaSEVENdaEIGHTdaNINE",
    "aaSIGNWRITING HAND-FIST INDEXbbHAND-CIRCLEbbHAND-CUPbbHAND-OVALbbHAND-HINGEbbHAND-ANGLE",
    "baHAND-FIST INDEX BENTbcHAND-CIRCLEbcHAND-FIST THUMB UNDERcaINDEX RAISED KNUCKLEdaCUPPED",
    "daHINGEDeaLOWbaHAND-CIRCLE INDEX HINGEbaHAND-FIST INDEX MIDDLEbcHAND-CIRCLE",
    "baHAND-FIST INDEX MIDDLE BENTeaRAISED KNUCKLESeaHINGEDdcUPdaHINGED MIDDLE UP",
    "daMIDDLE CONJOINEDfaINDEX BENTfbMIDDLEfaCUPPEDfaHINGEDeaCROSSEDbdHAND-CIRCLE",
    "baHAND-FIST MIDDLE BENT OVER INDEXcaINDEX BENT OVER MIDDLEdaMIDDLE THUMBbdHAND-CIRCLE",
    "baHAND-FIST INDEX MIDDLE STRAIGHT THUMB BENTeaBENT THUMB STRAIGHTeaTHUMB BENT",
    "eaHINGED SPREAD THUMB SIDEdcUP MIDDLE HINGEDhaCONJOINEDdaHINGED MIDDLE UP THUMB SIDE",
    "daMIDDLE UP SPREAD THUMB FORWARDeaTHUMB CUPPEDfaCIRCLEDfaHOOKEDfaHINGED",
    "caTHUMB BETWEEN INDEX MIDDLE STRAIGHTcaINDEX MIDDLE CONJOINED THUMB SIDEhaCONJOINEDhaBENT",
    "caMIDDLE THUMB HOOKED INDEX UPcbINDEX THUMB HOOKED MIDDLEdaMIDDLE CONJOINED HINGED THUMB SIDE",
    "ecCROSSEDeaCONJOINED THUMB FORWARDfcCUPPEDcaMIDDLE THUMB CUPPED INDEX UP",
    "cbINDEX THUMB CUPPED MIDDLEcbMIDDLE THUMB CIRCLED INDEXgaHINGED",
    "caINDEX THUMB ANGLED OUT MIDDLE UPfcINecCIRCLEDdaMIDDLE THUMB CONJOINED HINGEDfaANGLED OUTga",
    "caMIDDLE THUMB ANGLED OUT INDEX UPhaCROSSEDfaINDEX UPcaINDEX THUMB HOOKED MIDDLE HINGED",
    "baHAND-FLAT FOUR FINGERSeaBENTeaHINGEDeaCONJOINEDfaSPLITbaHAND-CLAW FOUR FINGERS CONJOINED",
    "baHAND-FIST FOUR FINGERS CONJOINED BENTbaHAND-HINGE FOUR FINGERS CONJOINED",
    "baHAND-FLAT FIVE FINGERS SPREADcdHEELcaFIVE FINGERS SPREAD FOUR BENTcfHEEL",
    "cbFIVE FINGERS SPREADceHEELcaFIVE FINGERS SPREAD THUMB FORWARDbaHAND-CUP FIVE FINGERS SPREAD",
    "faOPENbeHAND-HINGEbaHAND-OVAL FIVE FINGERS SPREADbaHAND-FLAT FIVE FINGERS SPREAD HINGED",
    "gaTHUMB SIDEgaNO THUMBcacaBETWEEN PALM FACINGScaHEELcaTHUMB SIDEccHEELcaTHUMB BENTdaFORWARD",
    "caSPLIT INDEX THUMB SIDEdaCENTREeaTHUMB SIDEgaBENTdaLITTLEbaHAND-CLAWcaTHUMB SIDEcaNO THUMB",
    "caTHUMB FORWARDbaHAND-HOOK CURLICUEcabaHAND-CUP OPENcacaOPEN THUMB SIDEcccaOPEN NO THUMBcc",
    "caOPEN THUMB FORWARDccbaHAND-CURLICUE OPENcabaHAND-CIRCLEbaHAND-OVALcaTHUMB SIDEcaNO THUMB",
    "caTHUMB FORWARDbaHAND-HINGE OPENdaTHUMB FORWARDcacaSMALLcaOPEN THUMB SIDEcccaOPEN NO THUMBcc",
    "caTHUMB SIDE TOUCHING INDEXdaBETWEEN MIDDLE RINGbaHAND-ANGLEbaHAND-FIST INDEX MIDDLE RING",
    "bdHAND-CIRCLEbdHAND-HINGEbdHAND-ANGLEbaHAND-HINGE LITTLEbaHAND-FIST INDEX MIDDLE RING BENT",
    "faCONJOINEDbeHAND-HINGEbaHAND-FIST LITTLE DOWNeaRIPPLE STRAIGHTfaCURVEDeaOTHERS CIRCLEDdaUP",
    "ccTHUMB UNDERbcHAND-CIRCLEbcHAND-OVALbcHAND-ANGLEbaHAND-FIST LITTLE RAISED KNUCKLEdaBENT",
    "daTOUCHES THUMBdbbcHAND-HINGEbbHAND-FIST LITTLE INDEXbdHAND-HINGE",
    "baHAND-ANGLE LITTLE INDEX THUMB INDEX THUMB OUThabaHAND-FIST LITTLE INDEXbcHAND-CIRCLE",
    "bcHAND-HINGEbcHAND-ANGLEbaHAND-FIST INDEX MIDDLE LITTLEbdHAND-CIRCLEbdHAND-HINGEcaRING",
    "baHAND-ANGLE INDEX MIDDLE LITTLEbbHAND-FIST INDEX MIDDLE CROSSbeHAND-CIRCLE",
    "baHAND-FIST RING DOWNbaHAND-HINGE RING DOWN INDEX THUMB HOOK MIDDLE",
    "baHAND-ANGLE RING DOWN MIDDLE THUMB INDEX CROSSbaHAND-FIST RING UPdaRAISED KNUCKLEdaLITTLE",
    "bcHAND-CIRCLEbcHAND-OVALbcHAND-ANGLEbaHAND-FIST RING MIDDLEeaCONJOINEDeaRAISED KNUCKLES",
    "daINDEXdaTHUMBbcHAND-HOOKbaHAND-FIST INDEX RING LITTLEbdHAND-CIRCLE",
    "baHAND-CURLICUE INDEX RING LITTLE ONbaHAND-HOOK INDEX RING LITTLE OUTfaINfaUNDER",
    "baHAND-CUP INDEX RING LITTLEbdHAND-HINGEbaHAND-ANGLE INDEX RING LITTLE OUTfa",
    "baHAND-FIST MIDDLE DOWNbaHAND-HINGE MIDDLEbaHAND-FIST MIDDLE UPbcHAND-CIRCLE",
    "baHAND-FIST MIDDLE RAISED KNUCKLEdaUP THUMB SIDEbaHAND-HOOK MIDDLE THUMB",
    "baHAND-FIST MIDDLE THUMB LITTLEdbdbRINGbdHAND-CIRCLEbaHAND-CURLICUE MIDDLE RING LITTLE ON",
    "baHAND-CUP MIDDLE RING LITTLEbdHAND-HINGEbaHAND-ANGLE MIDDLE RING LITTLE OUTfaINfa",
    "baHAND-CIRCLE MIDDLE RING LITTLE BENTbaHAND-CLAW MIDDLE RING LITTLE CONJOINEDgaSIDE",
    "baHAND-HOOK MIDDLE RING LITTLE CONJOINED OUTgaINgabaHAND-HINGE INDEX HINGED",
    "baHAND-FIST INDEX THUMB SIDEbdHAND-HINGEbaHAND-FIST INDEX THUMB SIDE THUMB DIAGONAL",
    "gaCONJOINEDgaBENTfbINDEXfbBOTHfaINDEX HINGEeaFORWARD INDEX STRAIGHTgaBENTeaHOOKeaCURLICUE",
    "eaCURVE THUMB INSIDEbfHAND-CLAWbaHAND-FIST INDEX THUMB CURVE THUMB UNDEReaCIRCLE",
    "baHAND-CUP INDEX THUMBeaOPENbdHAND-HINGEeaLARGEeaeaSMALLbaHAND-ANGLE INDEX THUMB OUTeaINea",
    "bbHAND-FISTdaHEELdaSIDE DIAGONALeaCONJOINEDeaBENTdaFORWARDdaBETWEEN INDEX MIDDLEeaMIDDLE RING",
    "eaRING LITTLEdaUNDER TWO FINGERSdcOVERdbUNDER THREEebFOURdaOVER FOUR RAISED KNUCKLEScacaHEEL",
    "baTOUCH SINGLEcaMULTIPLEcaBETWEENbaGRASP SINGLEcaMULTIPLEcaBETWEENbaSTRIKE SINGLEcaMULTIPLE",
    "caBETWEENbaBRUSH SINGLEcaMULTIPLEcaBETWEENbaRUB SINGLEcaMULTIPLEcaBETWEENbaSURFACE SYMBOLS",
    "caBETWEENbaSQUEEZE LARGE SINGLEcbSMALLcaLARGE MULTIPLEcbSMALLcaSEQUENTIALbaFLICK LARGE SINGLE",
    "cbSMALLcaLARGE MULTIPLEcbSMALLcaSEQUENTIALbaSQUEEZE FLICK ALTERNATING",
    "baMOVEMENT-HINGE UP DOWN LARGEeaSMALLdaSEQUENTIALcbDOWNcaUP DOWN ALTERNATING LARGEfaSMALL",
    "caSIDE TO SIDE SCISSORSbaMOVEMENT-WALLPLANE FINGER CONTACTbcMOVEMENT-FLOORPLANE",
    "baMOVEMENT-WALLPLANE SINGLE STRAIGHT SMALLeaMEDIUMeaLARGEeaLARGESTdaWRIST FLEX",
    "caDOUBLE STRAIGHTdaWRIST FLEXdaALTERNATINGeaWRIST FLEXcaCROSScaTRIPLE STRAIGHT MOVEMENT",
    "daWRIST FLEXdaALTERNATINGeaWRIST FLEXcaBEND SMALLdaMEDIUMdaLARGEcaCORNER SMALLdaMEDIUMdaLARGE",
    "daROTATIONcaCHECK SMALLdaMEDIUMdaLARGEcaBOX SMALLdaMEDIUMdaLARGEcaZIGZAG SMALLdaMEDIUMdaLARGE",
    "caPEAKS SMALLdaMEDIUMdaLARGEbaTRAVEL-WALLPLANE ROTATION-WALLPLANE SINGLEdaDOUBLEdaALTERNATING",
    "caROTATION-FLOORPLANE SINGLEdaDOUBLEdaALTERNATINGcaSHAKINGcaARM SPIRAL SINGLEeaDOUBLEeaTRIPLE",
    "baMOVEMENT-DIAGONAL AWAY SMALLdaMEDIUMdaLARGEdaLARGESTcaTOWARDS SMALLdaMEDIUMdaLARGEdaLARGEST",
    "caBETWEEN AWAY SMALLeaMEDIUMeaLARGEeaLARGESTdaTOWARDS SMALLeaMEDIUMeaLARGEeaLARGEST",
    "baMOVEMENT-FLOORPLANE SINGLE STRAIGHT SMALLeaMEDIUMeaLARGEeaLARGESTdaWRIST FLEX",
    "caDOUBLE STRAIGHTdaWRIST FLEXdaALTERNATINGeaWRIST FLEXcaCROSScaTRIPLE STRAIGHT MOVEMENT",
    "daWRIST FLEXdaALTERNATING MOVEMENTeaWRIST FLEXcaBENDcaCORNER SMALLdaMEDIUMdaLARGEcaCHECK",
    "caBOX SMALLdaMEDIUMdaLARGEcaZIGZAG SMALLdaMEDIUMdaLARGEcaPEAKS SMALLdaMEDIUMdaLARGE",
    "baTRAVEL-FLOORPLANE ROTATION-FLOORPLANE SINGLEdaDOUBLEdaALTERNATING",
    "caROTATION-WALLPLANE SINGLEdaDOUBLEdaALTERNATINGcaSHAKING",
    "baMOVEMENT-WALLPLANE CURVE QUARTER SMALLeaMEDIUMeaLARGEeaLARGESTdaHALF-CIRCLE SMALLeaMEDIUM",
    "eaLARGEeaLARGESTdaTHREE-QUARTER CIRCLE SMALLfaMEDIUMcaHUMP SMALLdaMEDIUMdaLARGEcaLOOP SMALL",
    "daMEDIUMdaLARGEdaSMALL DOUBLEcaWAVE CURVE DOUBLE SMALLfaMEDIUMfaLARGEeaTRIPLE SMALLfaMEDIUM",
    "faLARGEcaCURVE THEN STRAIGHTcaCURVED CROSS SMALLeaMEDIUMbaROTATION-WALLPLANE SINGLEcaDOUBLE",
    "caALTERNATEbaMOVEMENT-WALLPLANE SHAKINGcaCURVE HITTING FRONT WALLcdHUMPcdLOOPcdWAVE",
    "bdROTATION-WALLPLANE SINGLEcdDOUBLEcdALTERNATINGbaMOVEMENT-WALLPLANE CURVE HITTING CHEST",
    "ccHUMPccLOOPccWAVEbcROTATION-WALLPLANE SINGLEccDOUBLEccALTERNATING",
    "baMOVEMENT-WALLPLANE WAVE DIAGONAL PATH SMALLfaMEDIUMfaLARGE",
    "baMOVEMENT-FLOORPLANE CURVE HITTING CEILING SMALLfaLARGEcaHUMP HITTING CEILING SMALL DOUBLE",
    "fbLARGEfaSMALL TRIPLEfbLARGEcaLOOP HITTING CEILING SMALL SINGLEfbLARGEfaSMALL DOUBLEfbLARGE",
    "caWAVE HITTING CEILING SMALLfaLARGEbaROTATION-FLOORPLANE SINGLE HITTING CEILINGccDOUBLE",
    "ccALTERNATINGbaMOVEMENT-FLOORPLANE CURVE HITTING FLOOR SMALLfaLARGE",
    "caHUMP HITTING FLOOR SMALL DOUBLEfbLARGEfaTRIPLE SMALL TRIPLEgbLARGE",
    "caLOOP HITTING FLOOR SMALL SINGLEfbLARGEfaSMALL DOUBLEfbLARGEcaWAVE HITTING FLOOR SMALL",
    "faLARGEbaROTATION-FLOORPLANE SINGLE HITTING FLOORccDOUBLEccALTERNATING",
    "baMOVEMENT-FLOORPLANE CURVE SMALLdaMEDIUMdaLARGEdaLARGESTdaCOMBINEDcaHUMP SMALLcbLOOP",
    "caWAVE SNAKEdaSMALLdaLARGEbaROTATION-FLOORPLANE SINGLEcaDOUBLEcaALTERNATING",
    "baMOVEMENT-FLOORPLANE SHAKING PARALLELbaMOVEMENT-WALLPLANE ARM CIRCLE SMALL SINGLEebMEDIUM",
    "eaSMALL DOUBLEebMEDIUMbaMOVEMENT-FLOORPLANE ARM CIRCLE HITTING WALL SMALL SINGLEgbMEDIUM",
    "gbLARGEgaSMALL DOUBLEgbMEDIUMgbLARGEbaMOVEMENT-WALLPLANE WRIST CIRCLE FRONT SINGLEfaDOUBLE",
    "baMOVEMENT-FLOORPLANE WRIST CIRCLE HITTING WALL SINGLEgaDOUBLE",
    "baMOVEMENT-WALLPLANE FINGER CIRCLES SINGLEeaDOUBLE",
    "baMOVEMENT-FLOORPLANE FINGER CIRCLES HITTING WALL SINGLEgaDOUBLEbaDYNAMIC ARROWHEAD SMALL",
    "daLARGEcaFASTcaSLOWcaTENSEcaRELAXEDcaSIMULTANEOUSdaALTERNATINGcaEVERY OTHER TIMEcaGRADUAL",
    "baHEADcaRIMcaMOVEMENT-WALLPLANE STRAIGHTdaTILTcaMOVEMENT-FLOORPLANE STRAIGHT",
    "caMOVEMENT-WALLPLANE CURVEcbMOVEMENT-FLOORPLANEcaMOVEMENT CIRCLE",
    "baFACE DIRECTION POSITION NOSE FORWARD TILTINGfaUP OR DOWNiaTILTINGbaEYEBROWS STRAIGHT UP",
    "daNEUTRALdaDOWNbbDREAMY EYEBROWS NEUTRALdaDOWN NEUTRALdbUPdaNEUTRAL UPbaFOREHEAD NEUTRAL",
    "caCONTACTcaWRINKLEDbaEYES OPENcaSQUEEZEDcaCLOSEDbaEYE BLINK SINGLEdaMULTIPLEbaEYES HALF OPEN",
    "cbWIDEcaHALF CLOSEDcaWIDENING MOVEMENTbaEYE WINKbaEYELASHES UPcaDOWNcaFLUTTERING",
    "baEYEGAZE-WALLPLANE STRAIGHTdaDOUBLEdaALTERNATINGbaEYEGAZE-FLOORPLANE STRAIGHTdaDOUBLE",
    "daALTERNATINGbaEYEGAZE-WALLPLANE CURVEDbbEYEGAZE-FLOORPLANEbaEYEGAZE-WALLPLANE CIRCLING",
    "baCHEEKS PUFFEDcaNEUTRALcaSUCKEDbaTENSE CHEEKS HIGHdaMIDDLEdaLOWbaEARSbaNOSE NEUTRALcaCONTACT",
    "caWRINKLEScaWIGGLESbaAIR BLOWING OUTcaSUCKING INcaBLOW SMALL ROTATIONSccSUCKbaBREATH INHALE",
    "caEXHALEbaMOUTH CLOSED NEUTRALdaFORWARDdaCONTACTcaSMILEdaWRINKLEDdaOPENcaFROWNdaWRINKLED",
    "daOPENcaOPEN CIRCLEdaFORWARDdaWRINKLEDdaOVALeaWRINKLEDeaYAWNdaRECTANGLEeaWRINKLEDeaYAWNcaKISS",
    "daFORWARDdaWRINKLEDcaTENSEdaFORWARDdaSUCKEDbaLIPS PRESSED TOGETHERbaLIP LOWER OVER UPPER",
    "caUPPER OVER LOWERbaMOUTH CORNERScaWRINKLES SINGLEdaDOUBLEbaTONGUE STICKING OUT FAR",
    "caLICKING LIPScbTIP BETWEENdaTOUCHING INSIDE MOUTHcaINSIDE MOUTH RELAXEDcaMOVES AGAINST CHEEK",
    "caCENTRE STICKING OUTdaINSIDE MOUTHbaTEETHcaMOVEMENTcaON TONGUEeaMOVEMENTdaLIPSeaMOVEMENT",
    "caBITE LIPSbaMOVEMENT-WALLPLANE JAWbbMOVEMENT-FLOORPLANEbaNECKbaHAIRbaEXCITEMENT",
    "baSHOULDER HIP SPINEdaPOSITIONSbaWALLPLANE SHOULDER HIP MOVEbdFLOORPLANE",
    "baSHOULDER TILTING FROM WAISTbaTORSO-WALLPLANE STRAIGHT STRETCHcaCURVED BEND",
    "baTORSO-FLOORPLANE TWISTINGbaUPPER BODY TILTING FROM HIP JOINTSbaLIMB COMBINATIONcaLENGTH-1",
    "caLENGTH-2caLENGTH-3caLENGTH-4caLENGTH-5caLENGTH-6caLENGTH-7baFINGER",
    "baLOCATION-WALLPLANE SPACEbbLOCATION-FLOORPLANEbaLOCATION HEIGHTcaWIDTHcaDEPTHcaHEAD NECK",
    "caTORSOcaLIMBS DIGITSbaCOMMAbaFULL STOPbaSEMICOLONbaCOLONbaPARENTHESISbaFILL MODIFIER-2",
    "caMODIFIER-3caMODIFIER-4caMODIFIER-5caMODIFIER-6baROTATION MODIFIER-2caMODIFIER-3caMODIFIER-4",
    "caMODIFIER-5caMODIFIER-6caMODIFIER-7caMODIFIER-8caMODIFIER-9caMODIFIER-10caMODIFIER-11",
    "caMODIFIER-12caMODIFIER-13caMODIFIER-14caMODIFIER-15caMODIFIER-16",
    "aaLATIN SMALL LETTER FENG DIGRAPH WITH TRILLdaREVERSED SCRIPT GbbLETTER SMALL CAPITAL TURNED",
    "baSMALL LETTER REVERSED KbaLETTER SMALL CAPITAL L WITH BELT",
    "baSMALL LETTER LEZH WITH RETROFLEX HOOKdaTURNED Y WITH BELTdaREVERSED ENG",
    "daTURNED R WITH LONG LEG AND RETROFLEX HOOKddT WITH HOOKbcLETTER RETROFLEX CLICK WITH",
    "baSMALL LETTER ESH WITH DOUBLE BARhaAND CURLdbTURNED T WITHbcLETTER INVERTED GLOTTAL STOP",
    "ccSTRETCHED CcaSMALL CAPITAL TURNED KbaSMALL LETTER L WITH FISHHOOK",
    "daDEZH DIGRAPH WITH PALATAL HOOKdcL WITH BELT ANDdcENG WITHddTURNED RdcR WITH FISHHOOK AND",
    "dcTESH DIGRAPH WITHddEZHdbDEZH DIGRAPH WITH RETROFLEXdcI WITH STROKE ANDdcO WITH",
    "ddTESH DIGRAPHddCdaS WITH CURL"]

end ClusterBilling.Text.NameTable
