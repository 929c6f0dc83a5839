/-! The general category of every code point, as runs of equal category in ascending order: the length
of a run in hexadecimal and the two letters of its category. -/
namespace PullDecoration
namespace Unicode

def categoryRuns : List String :=
  ["20Cc 1Zs 3Po 1Sc 3Po 1Ps 1Pe 1Po 1Sm 1Po 1Pd 2Po ANd 2Po 3Sm 2Po 1ALu 1Ps 1Po 1Pe 1Sk 1Pc",
    "1Sk 1ALl 1Ps 1Sm 1Pe 1Sm 21Cc 1Zs 1Po 4Sc 1So 1Po 1Sk 1So 1Lo 1Pi 1Sm 1Cf 1So 1Sk 1So 1Sm",
    "2No 1Sk 1Ll 2Po 1Sk 1No 1Lo 1Pf 3No 1Po 17Lu 1Sm 7Lu 18Ll 1Sm 8Ll 1Lu 1Ll 1Lu 1Ll 1Lu 1Ll",
    "1Lu 1Ll 1Lu 1Ll 1Lu 1Ll 1Lu 1Ll 1Lu 1Ll 1Lu 1Ll 1Lu 1Ll 1Lu 1Ll 1Lu 1Ll 1Lu 1Ll 1Lu 1Ll 1Lu",
    "1Ll 1Lu 1Ll 1Lu 1Ll 1Lu 1Ll 1Lu 1Ll 1Lu 1Ll 1Lu 1Ll 1Lu 1Ll 1Lu 1Ll 1Lu 1Ll 1Lu 1Ll 1Lu 1Ll",
    "1Lu 1Ll 1Lu 2Ll 1Lu 1Ll 1Lu 1Ll 1Lu 1Ll 1Lu 1Ll 1Lu 1Ll 1Lu 1Ll 1Lu 1Ll 1Lu 2Ll 1Lu 1Ll 1Lu",
    "1Ll 1Lu 1Ll 1Lu 1Ll 1Lu 1Ll 1Lu 1Ll 1Lu 1Ll 1Lu 1Ll 1Lu 1Ll 1Lu 1Ll 1Lu 1Ll 1Lu 1Ll 1Lu 1Ll",
    "1Lu 1Ll 1Lu 1Ll 1Lu 1Ll 1Lu 1Ll 1Lu 1Ll 1Lu 1Ll 1Lu 1Ll 1Lu 1Ll 1Lu 1Ll 1Lu 1Ll 2Lu 1Ll 1Lu",
    "1Ll 1Lu 3Ll 2Lu 1Ll 1Lu 1Ll 2Lu 1Ll 3Lu 2Ll 4Lu 1Ll 2Lu 1Ll 3Lu 3Ll 2Lu 1Ll 2Lu 1Ll 1Lu 1Ll",
    "1Lu 1Ll 2Lu 1Ll 1Lu 2Ll 1Lu 1Ll 2Lu 1Ll 3Lu 1Ll 1Lu 1Ll 2Lu 2Ll 1Lo 1Lu 3Ll 4Lo 1Lu 1Lt 1Ll",
    "1Lu 1Lt 1Ll 1Lu 1Lt 1Ll 1Lu 1Ll 1Lu 1Ll 1Lu 1Ll 1Lu 1Ll 1Lu 1Ll 1Lu 1Ll 1Lu 1Ll 1Lu 2Ll 1Lu",
    "1Ll 1Lu 1Ll 1Lu 1Ll 1Lu 1Ll 1Lu 1Ll 1Lu 1Ll 1Lu 1Ll 1Lu 1Ll 1Lu 2Ll 1Lu 1Lt 1Ll 1Lu 1Ll 3Lu",
    "1Ll 1Lu 1Ll 1Lu 1Ll 1Lu 1Ll 1Lu 1Ll 1Lu 1Ll 1Lu 1Ll 1Lu 1Ll 1Lu 1Ll 1Lu 1Ll 1Lu 1Ll 1Lu 1Ll",
    "1Lu 1Ll 1Lu 1Ll 1Lu 1Ll 1Lu 1Ll 1Lu 1Ll 1Lu 1Ll 1Lu 1Ll 1Lu 1Ll 1Lu 1Ll 1Lu 1Ll 1Lu 1Ll 1Lu",
    "1Ll 1Lu 1Ll 1Lu 1Ll 1Lu 1Ll 1Lu 1Ll 1Lu 1Ll 1Lu 7Ll 2Lu 1Ll 2Lu 2Ll 1Lu 1Ll 4Lu 1Ll 1Lu 1Ll",
    "1Lu 1Ll 1Lu 1Ll 1Lu 45Ll 1Lo 1BLl 12Lm 4Sk CLm ESk 5Lm 7Sk 1Lm 1Sk 1Lm 11Sk 70Mn 1Lu 1Ll 1Lu",
    "1Ll 1Lm 1Sk 1Lu 1Ll 2Cn 1Lm 3Ll 1Po 1Lu 4Cn 2Sk 1Lu 1Po 3Lu 1Cn 1Lu 1Cn 2Lu 1Ll 11Lu 1Cn 9Lu",
    "23Ll 1Lu 2Ll 3Lu 3Ll 1Lu 1Ll 1Lu 1Ll 1Lu 1Ll 1Lu 1Ll 1Lu 1Ll 1Lu 1Ll 1Lu 1Ll 1Lu 1Ll 1Lu 1Ll",
    "1Lu 1Ll 1Lu 1Ll 1Lu 5Ll 1Lu 1Ll 1Sm 1Lu 1Ll 2Lu 2Ll 33Lu 30Ll 1Lu 1Ll 1Lu 1Ll 1Lu 1Ll 1Lu",
    "1Ll 1Lu 1Ll 1Lu 1Ll 1Lu 1Ll 1Lu 1Ll 1Lu 1Ll 1Lu 1Ll 1Lu 1Ll 1Lu 1Ll 1Lu 1Ll 1Lu 1Ll 1Lu 1Ll",
    "1Lu 1Ll 1Lu 1Ll 1So 5Mn 2Me 1Lu 1Ll 1Lu 1Ll 1Lu 1Ll 1Lu 1Ll 1Lu 1Ll 1Lu 1Ll 1Lu 1Ll 1Lu 1Ll",
    "1Lu 1Ll 1Lu 1Ll 1Lu 1Ll 1Lu 1Ll 1Lu 1Ll 1Lu 1Ll 1Lu 1Ll 1Lu 1Ll 1Lu 1Ll 1Lu 1Ll 1Lu 1Ll 1Lu",
    "1Ll 1Lu 1Ll 1Lu 1Ll 1Lu 1Ll 1Lu 1Ll 1Lu 1Ll 1Lu 1Ll 1Lu 1Ll 2Lu 1Ll 1Lu 1Ll 1Lu 1Ll 1Lu 1Ll",
    "1Lu 1Ll 1Lu 1Ll 1Lu 2Ll 1Lu 1Ll 1Lu 1Ll 1Lu 1Ll 1Lu 1Ll 1Lu 1Ll 1Lu 1Ll 1Lu 1Ll 1Lu 1Ll 1Lu",
    "1Ll 1Lu 1Ll 1Lu 1Ll 1Lu 1Ll 1Lu 1Ll 1Lu 1Ll 1Lu 1Ll 1Lu 1Ll 1Lu 1Ll 1Lu 1Ll 1Lu 1Ll 1Lu 1Ll",
    "1Lu 1Ll 1Lu 1Ll 1Lu 1Ll 1Lu 1Ll 1Lu 1Ll 1Lu 1Ll 1Lu 1Ll 1Lu 1Ll 1Lu 1Ll 1Lu 1Ll 1Lu 1Ll 1Lu",
    "1Ll 1Lu 1Ll 1Lu 1Ll 1Lu 1Ll 1Lu 1Ll 1Lu 1Ll 1Lu 1Ll 1Lu 1Ll 1Lu 1Ll 1Lu 1Ll 1Lu 1Ll 1Lu 1Ll",
    "1Lu 1Ll 1Lu 1Ll 1Lu 1Ll 1Lu 1Ll 1Lu 1Ll 1Cn 26Lu 2Cn 1Lm 6Po 29Ll 1Po 1Pd 2Cn 2So 1Sc 1Cn",
    "2DMn 1Pd 1Mn 1Po 2Mn 1Po 2Mn 1Po 1Mn 8Cn 1BLo 4Cn 4Lo 2Po BCn 6Cf 3Sm 2Po 1Sc 2Po 2So BMn",
    "1Po 1Cf 3Po 20Lo 1Lm ALo 15Mn ANd 4Po 2Lo 1Mn 63Lo 1Po 1Lo 7Mn 1Cf 1So 6Mn 2Lm 2Mn 1So 4Mn",
    "2Lo ANd 3Lo 2So 1Lo EPo 1Cn 1Cf 1Lo 1Mn 1ELo 1BMn 2Cn 59Lo BMn 1Lo ECn ANd 21Lo 9Mn 2Lm 1So",
    "3Po 1Lm 2Cn 1Mn 2Sc 16Lo 4Mn 1Lm 9Mn 1Lm 3Mn 1Lm 5Mn 2Cn FPo 1Cn 19Lo 3Mn 2Cn 1Po 1Cn BLo",
    "5Cn 18Lo 1Sk 6Lo 1Cn 2Cf 6Cn 8Mn 29Lo 1Lm 18Mn 1Cf 20Mn 1Mc 36Lo 1Mn 1Mc 1Mn 1Lo 3Mc 8Mn 4Mc",
    "1Mn 2Mc 1Lo 7Mn ALo 2Mn 2Po ANd 1Po 1Lm FLo 1Mn 2Mc 1Cn 8Lo 2Cn 2Lo 2Cn 16Lo 1Cn 7Lo 1Cn 1Lo",
    "3Cn 4Lo 2Cn 1Mn 1Lo 3Mc 4Mn 2Cn 2Mc 2Cn 2Mc 1Mn 1Lo 8Cn 1Mc 4Cn 2Lo 1Cn 3Lo 2Mn 2Cn ANd 2Lo",
    "2Sc 6No 1So 1Sc 1Lo 1Po 1Mn 2Cn 2Mn 1Mc 1Cn 6Lo 4Cn 2Lo 2Cn 16Lo 1Cn 7Lo 1Cn 2Lo 1Cn 2Lo 1Cn",
    "2Lo 2Cn 1Mn 1Cn 3Mc 2Mn 4Cn 2Mn 2Cn 3Mn 3Cn 1Mn 7Cn 4Lo 1Cn 1Lo 7Cn ANd 2Mn 3Lo 1Mn 1Po ACn",
    "2Mn 1Mc 1Cn 9Lo 1Cn 3Lo 1Cn 16Lo 1Cn 7Lo 1Cn 2Lo 1Cn 5Lo 2Cn 1Mn 1Lo 3Mc 5Mn 1Cn 2Mn 1Mc 1Cn",
    "2Mc 1Mn 2Cn 1Lo FCn 2Lo 2Mn 2Cn ANd 1Po 1Sc 7Cn 1Lo 6Mn 1Cn 1Mn 2Mc 1Cn 8Lo 2Cn 2Lo 2Cn 16Lo",
    "1Cn 7Lo 1Cn 2Lo 1Cn 5Lo 2Cn 1Mn 1Lo 1Mc 1Mn 1Mc 4Mn 2Cn 2Mc 2Cn 2Mc 1Mn 7Cn 2Mn 1Mc 4Cn 2Lo",
    "1Cn 3Lo 2Mn 2Cn ANd 1So 1Lo 6No ACn 1Mn 1Lo 1Cn 6Lo 3Cn 3Lo 1Cn 4Lo 3Cn 2Lo 1Cn 1Lo 1Cn 2Lo",
    "3Cn 2Lo 3Cn 3Lo 3Cn CLo 4Cn 2Mc 1Mn 2Mc 3Cn 3Mc 1Cn 3Mc 1Mn 2Cn 1Lo 6Cn 1Mc ECn ANd 3No 6So",
    "1Sc 1So 5Cn 1Mn 3Mc 1Mn 8Lo 1Cn 3Lo 1Cn 17Lo 1Cn 10Lo 2Cn 1Mn 1Lo 3Mn 4Mc 1Cn 3Mn 1Cn 4Mn",
    "7Cn 2Mn 1Cn 3Lo 2Cn 1Lo 2Cn 2Lo 2Mn 2Cn ANd 7Cn 1Po 7No 1So 1Lo 1Mn 2Mc 1Po 8Lo 1Cn 3Lo 1Cn",
    "17Lo 1Cn ALo 1Cn 5Lo 2Cn 1Mn 1Lo 1Mc 1Mn 5Mc 1Cn 1Mn 2Mc 1Cn 2Mc 2Mn 7Cn 2Mc 6Cn 2Lo 1Cn 2Lo",
    "2Mn 2Cn ANd 1Cn 2Lo 1Mc CCn 2Mn 2Mc 9Lo 1Cn 3Lo 1Cn 29Lo 2Mn 1Lo 3Mc 4Mn 1Cn 3Mc 1Cn 3Mc 1Mn",
    "1Lo 1So 4Cn 3Lo 1Mc 7No 3Lo 2Mn 2Cn ANd 9No 1So 6Lo 1Cn 1Mn 2Mc 1Cn 12Lo 3Cn 18Lo 1Cn 9Lo",
    "1Cn 1Lo 2Cn 7Lo 3Cn 1Mn 4Cn 3Mc 3Mn 1Cn 1Mn 1Cn 8Mc 6Cn ANd 2Cn 2Mc 1Po CCn 30Lo 1Mn 2Lo 7Mn",
    "4Cn 1Sc 6Lo 1Lm 8Mn 1Po ANd 2Po 25Cn 2Lo 1Cn 1Lo 1Cn 5Lo 1Cn 18Lo 1Cn 1Lo 1Cn ALo 1Mn 2Lo",
    "9Mn 1Lo 2Cn 5Lo 1Cn 1Lm 1Cn 7Mn 1Cn ANd 2Cn 4Lo 20Cn 1Lo 3So FPo 1So 1Po 3So 2Mn 6So ANd ANo",
    "1So 1Mn 1So 1Mn 1So 1Mn 1Ps 1Pe 1Ps 1Pe 2Mc 8Lo 1Cn 24Lo 4Cn EMn 1Mc 5Mn 1Po 2Mn 5Lo BMn 1Cn",
    "24Mn 1Cn 8So 1Mn 6So 1Cn 2So 5Po 4So 2Po 25Cn 2BLo 2Mc 4Mn 1Mc 6Mn 1Mc 2Mn 2Mc 2Mn 1Lo ANd",
    "6Po 6Lo 2Mc 2Mn 4Lo 3Mn 1Lo 3Mc 2Lo 7Mc 3Lo 4Mn DLo 1Mn 2Mc 2Mn 6Mc 1Mn 1Lo 1Mc ANd 3Mc 1Mn",
    "2So 26Lu 1Cn 1Lu 5Cn 1Lu 2Cn 2BLl 1Po 1Lm 3Ll 149Lo 1Cn 4Lo 2Cn 7Lo 1Cn 1Lo 1Cn 4Lo 2Cn 29Lo",
    "1Cn 4Lo 2Cn 21Lo 1Cn 4Lo 2Cn 7Lo 1Cn 1Lo 1Cn 4Lo 2Cn FLo 1Cn 39Lo 1Cn 4Lo 2Cn 43Lo 2Cn 3Mn",
    "9Po 14No 3Cn 10Lo ASo 6Cn 56Lu 2Cn 6Ll 2Cn 1Pd 26CLo 1So 1Po 11Lo 1Zs 1ALo 1Ps 1Pe 3Cn 4BLo",
    "3Po 3Nl 8Lo 7Cn 12Lo 3Mn 1Mc 9Cn 13Lo 2Mn 1Mc 2Po 9Cn 12Lo 2Mn CCn DLo 1Cn 3Lo 1Cn 2Mn CCn",
    "34Lo 2Mn 1Mc 7Mn 8Mc 1Mn 2Mc BMn 3Po 1Lm 3Po 1Sc 1Lo 1Mn 2Cn ANd 6Cn ANo 6Cn 6Po 1Pd 4Po 3Mn",
    "1Cf 1Mn ANd 6Cn 23Lo 1Lm 35Lo 7Cn 5Lo 2Mn 22Lo 1Mn 1Lo 5Cn 46Lo ACn 1FLo 1Cn 3Mn 4Mc 2Mn 3Mc",
    "4Cn 2Mc 1Mn 6Mc 3Mn 4Cn 1So 3Cn 2Po ANd 1ELo 2Cn 5Lo BCn 2CLo 4Cn 1ALo 6Cn ANd 1No 3Cn 22So",
    "17Lo 2Mn 2Mc 1Mn 2Cn 2Po 35Lo 1Mc 1Mn 1Mc 7Mn 1Cn 1Mn 1Mc 1Mn 2Mc 8Mn 6Mc AMn 2Cn 1Mn ANd",
    "6Cn ANd 6Cn 7Po 1Lm 6Po 2Cn EMn 1Me 10Mn 31Cn 4Mn 1Mc 2FLo 1Mn 1Mc 5Mn 1Mc 1Mn 5Mc 1Mn 2Mc",
    "8Lo 3Cn ANd 7Po ASo 9Mn 9So 2Po 1Cn 2Mn 1Mc 1ELo 1Mc 4Mn 2Mc 2Mn 1Mc 3Mn 2Lo ANd 2CLo 1Mn",
    "1Mc 2Mn 3Mc 1Mn 1Mc 3Mn 2Mc 8Cn 4Po 24Lo 8Mc 8Mn 2Mc 2Mn 3Cn 5Po ANd 3Cn 3Lo ANd 1ELo 6Lm",
    "2Po 9Ll 7Cn 2BLu 2Cn 3Lu 8Po 8Cn 3Mn 1Po DMn 1Mc 7Mn 4Lo 1Mn 6Lo 1Mn 2Lo 1Mc 2Mn 1Lo 5Cn",
    "2CLl 3FLm DLl 1Lm 22Ll 25Lm 40Mn 1Lu 1Ll 1Lu 1Ll 1Lu 1Ll 1Lu 1Ll 1Lu 1Ll 1Lu 1Ll 1Lu 1Ll 1Lu",
    "1Ll 1Lu 1Ll 1Lu 1Ll 1Lu 1Ll 1Lu 1Ll 1Lu 1Ll 1Lu 1Ll 1Lu 1Ll 1Lu 1Ll 1Lu 1Ll 1Lu 1Ll 1Lu 1Ll",
    "1Lu 1Ll 1Lu 1Ll 1Lu 1Ll 1Lu 1Ll 1Lu 1Ll 1Lu 1Ll 1Lu 1Ll 1Lu 1Ll 1Lu 1Ll 1Lu 1Ll 1Lu 1Ll 1Lu",
    "1Ll 1Lu 1Ll 1Lu 1Ll 1Lu 1Ll 1Lu 1Ll 1Lu 1Ll 1Lu 1Ll 1Lu 1Ll 1Lu 1Ll 1Lu 1Ll 1Lu 1Ll 1Lu 1Ll",
    "1Lu 1Ll 1Lu 1Ll 1Lu 1Ll 1Lu 1Ll 1Lu 1Ll 1Lu 1Ll 1Lu 1Ll 1Lu 1Ll 1Lu 1Ll 1Lu 1Ll 1Lu 1Ll 1Lu",
    "1Ll 1Lu 1Ll 1Lu 1Ll 1Lu 1Ll 1Lu 1Ll 1Lu 1Ll 1Lu 1Ll 1Lu 1Ll 1Lu 1Ll 1Lu 1Ll 1Lu 1Ll 1Lu 1Ll",
    "1Lu 1Ll 1Lu 1Ll 1Lu 1Ll 1Lu 1Ll 1Lu 1Ll 1Lu 1Ll 1Lu 1Ll 1Lu 1Ll 1Lu 1Ll 1Lu 9Ll 1Lu 1Ll 1Lu",
    "1Ll 1Lu 1Ll 1Lu 1Ll 1Lu 1Ll 1Lu 1Ll 1Lu 1Ll 1Lu 1Ll 1Lu 1Ll 1Lu 1Ll 1Lu 1Ll 1Lu 1Ll 1Lu 1Ll",
    "1Lu 1Ll 1Lu 1Ll 1Lu 1Ll 1Lu 1Ll 1Lu 1Ll 1Lu 1Ll 1Lu 1Ll 1Lu 1Ll 1Lu 1Ll 1Lu 1Ll 1Lu 1Ll 1Lu",
    "1Ll 1Lu 1Ll 1Lu 1Ll 1Lu 1Ll 1Lu 1Ll 1Lu 1Ll 1Lu 1Ll 1Lu 1Ll 1Lu 1Ll 1Lu 1Ll 1Lu 1Ll 1Lu 1Ll",
    "1Lu 1Ll 1Lu 1Ll 1Lu 1Ll 1Lu 1Ll 1Lu 1Ll 1Lu 1Ll 1Lu 1Ll 1Lu 1Ll 1Lu 1Ll 1Lu 1Ll 1Lu 1Ll 1Lu",
    "1Ll 1Lu 9Ll 8Lu 6Ll 2Cn 6Lu 2Cn 8Ll 8Lu 8Ll 8Lu 6Ll 2Cn 6Lu 2Cn 8Ll 1Cn 1Lu 1Cn 1Lu 1Cn 1Lu",
    "1Cn 1Lu 8Ll 8Lu ELl 2Cn 8Ll 8Lt 8Ll 8Lt 8Ll 8Lt 5Ll 1Cn 2Ll 4Lu 1Lt 1Sk 1Ll 3Sk 3Ll 1Cn 2Ll",
    "4Lu 1Lt 3Sk 4Ll 2Cn 2Ll 4Lu 1Cn 3Sk 8Ll 5Lu 3Sk 2Cn 3Ll 1Cn 2Ll 4Lu 1Lt 2Sk 1Cn BZs 5Cf 6Pd",
    "2Po 1Pi 1Pf 1Ps 2Pi 1Pf 1Ps 1Pi 8Po 1Zl 1Zp 5Cf 1Zs 9Po 1Pi 1Pf 4Po 2Pc 3Po 1Sm 1Ps 1Pe BPo",
    "1Sm 1Po 1Pc APo 1Zs 5Cf 1Cn ACf 1No 1Lm 2Cn 6No 3Sm 1Ps 1Pe 1Lm ANo 3Sm 1Ps 1Pe 1Cn DLm 3Cn",
    "21Sc FCn DMn 4Me 1Mn 3Me CMn FCn 2So 1Lu 4So 1Lu 2So 1Ll 3Lu 2Ll 3Lu 1Ll 1So 1Lu 2So 1Sm 5Lu",
    "6So 1Lu 1So 1Lu 1So 1Lu 1So 4Lu 1So 1Ll 4Lu 1Ll 4Lo 1Ll 2So 2Ll 2Lu 5Sm 1Lu 4Ll 1So 1Sm 2So",
    "1Ll 1So 10No 23Nl 1Lu 1Ll 4Nl 1No 2So 4Cn 5Sm 5So 2Sm 4So 1Sm 2So 1Sm 2So 1Sm 7So 1Sm 1FSo",
    "2Sm 2So 1Sm 1So 1Sm 1FSo 10CSm 8So 1Ps 1Pe 1Ps 1Pe 14So 2Sm 7So 1Ps 1Pe 51So 1Sm 1ESo 19Sm",
    "28So 6Sm 45So 19Cn BSo 15Cn 3CNo 4ESo 16No B7So 1Sm 9So 1Sm 36So 8Sm 6FSo 1Sm F8So 1Ps 1Pe",
    "1Ps 1Pe 1Ps 1Pe 1Ps 1Pe 1Ps 1Pe 1Ps 1Pe 1Ps 1Pe 1ENo 2CSo 5Sm 1Ps 1Pe 1FSm 1Ps 1Pe 1Ps 1Pe",
    "1Ps 1Pe 1Ps 1Pe 1Ps 1Pe 10Sm 100So 83Sm 1Ps 1Pe 1Ps 1Pe 1Ps 1Pe 1Ps 1Pe 1Ps 1Pe 1Ps 1Pe 1Ps",
    "1Pe 1Ps 1Pe 1Ps 1Pe 1Ps 1Pe 1Ps 1Pe 3FSm 1Ps 1Pe 1Ps 1Pe 20Sm 1Ps 1Pe 102Sm 30So 15Sm 2So",
    "6Sm 27So 2Cn 20So 1Cn 69So 30Lu 30Ll 1Lu 1Ll 3Lu 2Ll 1Lu 1Ll 1Lu 1Ll 1Lu 1Ll 4Lu 1Ll 1Lu 2Ll",
    "1Lu 6Ll 2Lm 3Lu 1Ll 1Lu 1Ll 1Lu 1Ll 1Lu 1Ll 1Lu 1Ll 1Lu 1Ll 1Lu 1Ll 1Lu 1Ll 1Lu 1Ll 1Lu 1Ll",
    "1Lu 1Ll 1Lu 1Ll 1Lu 1Ll 1Lu 1Ll 1Lu 1Ll 1Lu 1Ll 1Lu 1Ll 1Lu 1Ll 1Lu 1Ll 1Lu 1Ll 1Lu 1Ll 1Lu",
    "1Ll 1Lu 1Ll 1Lu 1Ll 1Lu 1Ll 1Lu 1Ll 1Lu 1Ll 1Lu 1Ll 1Lu 1Ll 1Lu 1Ll 1Lu 1Ll 1Lu 1Ll 1Lu 1Ll",
    "1Lu 1Ll 1Lu 1Ll 1Lu 1Ll 1Lu 1Ll 1Lu 1Ll 1Lu 1Ll 1Lu 1Ll 1Lu 1Ll 1Lu 1Ll 1Lu 1Ll 1Lu 1Ll 1Lu",
    "1Ll 1Lu 1Ll 1Lu 1Ll 1Lu 1Ll 1Lu 1Ll 1Lu 2Ll 6So 1Lu 1Ll 1Lu 1Ll 3Mn 1Lu 1Ll 5Cn 4Po 1No 2Po",
    "26Ll 1Cn 1Ll 5Cn 1Ll 2Cn 38Lo 7Cn 1Lm 1Po ECn 1Mn 17Lo 9Cn 7Lo 1Cn 7Lo 1Cn 7Lo 1Cn 7Lo 1Cn",
    "7Lo 1Cn 7Lo 1Cn 7Lo 1Cn 7Lo 1Cn 20Mn 2Po 1Pi 1Pf 1Pi 1Pf 3Po 1Pi 1Pf 1Po 1Pi 1Pf 9Po 1Pd 2Po",
    "1Pd 1Po 1Pi 1Pf 2Po 1Pi 1Pf 1Ps 1Pe 1Ps 1Pe 1Ps 1Pe 1Ps 1Pe 5Po 1Lm APo 2Pd 4Po 1Pd 1Po 1Ps",
    "DPo 2So 3Po 1Ps 1Pe 1Ps 1Pe 1Ps 1Pe 1Ps 1Pe 1Pd 22Cn 1ASo 1Cn 59So CCn D6So 1ACn CSo 4Cn 1Zs",
    "3Po 1So 1Lm 1Lo 1Nl 1Ps 1Pe 1Ps 1Pe 1Ps 1Pe 1Ps 1Pe 1Ps 1Pe 2So 1Ps 1Pe 1Ps 1Pe 1Ps 1Pe 1Ps",
    "1Pe 1Pd 1Ps 2Pe 1So 9Nl 4Mn 2Mc 1Pd 5Lm 2So 3Nl 1Lm 1Lo 1Po 2So 1Cn 56Lo 2Cn 2Mn 2Sk 2Lm 1Lo",
    "1Pd 5ALo 1Po 3Lm 1Lo 5Cn 2BLo 1Cn 5ELo 1Cn 2So 4No ASo 20Lo 24So CCn 10Lo 1FSo 1Cn ANo 1ESo",
    "8No 1So FNo 20So ANo 27So FNo 140So 19C0Lo 40So 5215Lo 1Lm 477Lo 3Cn 37So 9Cn 28Lo 6Lm 2Po",
    "10CLo 1Lm 3Po 10Lo ANd 2Lo 14Cn 1Lu 1Ll 1Lu 1Ll 1Lu 1Ll 1Lu 1Ll 1Lu 1Ll 1Lu 1Ll 1Lu 1Ll 1Lu",
    "1Ll 1Lu 1Ll 1Lu 1Ll 1Lu 1Ll 1Lu 1Ll 1Lu 1Ll 1Lu 1Ll 1Lu 1Ll 1Lu 1Ll 1Lu 1Ll 1Lu 1Ll 1Lu 1Ll",
    "1Lu 1Ll 1Lu 1Ll 1Lu 1Ll 1Lu 1Ll 1Lo 1Mn 3Me 1Po AMn 1Po 1Lm 1Lu 1Ll 1Lu 1Ll 1Lu 1Ll 1Lu 1Ll",
    "1Lu 1Ll 1Lu 1Ll 1Lu 1Ll 1Lu 1Ll 1Lu 1Ll 1Lu 1Ll 1Lu 1Ll 1Lu 1Ll 1Lu 1Ll 1Lu 1Ll 2Lm 2Mn 46Lo",
    "ANl 2Mn 6Po 8Cn 17Sk 9Lm 2Sk 1Lu 1Ll 1Lu 1Ll 1Lu 1Ll 1Lu 1Ll 1Lu 1Ll 1Lu 1Ll 1Lu 3Ll 1Lu 1Ll",
    "1Lu 1Ll 1Lu 1Ll 1Lu 1Ll 1Lu 1Ll 1Lu 1Ll 1Lu 1Ll 1Lu 1Ll 1Lu 1Ll 1Lu 1Ll 1Lu 1Ll 1Lu 1Ll 1Lu",
    "1Ll 1Lu 1Ll 1Lu 1Ll 1Lu 1Ll 1Lu 1Ll 1Lu 1Ll 1Lu 1Ll 1Lu 1Ll 1Lu 1Ll 1Lu 1Ll 1Lu 1Ll 1Lu 1Ll",
    "1Lu 1Ll 1Lu 1Ll 1Lu 1Ll 1Lu 1Ll 1Lu 1Ll 1Lu 1Ll 1Lu 1Ll 1Lm 8Ll 1Lu 1Ll 1Lu 1Ll 2Lu 1Ll 1Lu",
    "1Ll 1Lu 1Ll 1Lu 1Ll 1Lu 1Ll 1Lm 2Sk 1Lu 1Ll 1Lu 1Ll 1Lo 1Lu 1Ll 1Lu 3Ll 1Lu 1Ll 1Lu 1Ll 1Lu",
    "1Ll 1Lu 1Ll 1Lu 1Ll 1Lu 1Ll 1Lu 1Ll 1Lu 1Ll 1Lu 1Ll 1Lu 1Ll 5Lu 1Ll 5Lu 1Ll 1Lu 1Ll 1Lu 1Ll",
    "1Lu 1Ll 1Lu 1Ll 1Lu 1Ll 1Lu 1Ll 1Lu 1Ll 4Lu 1Ll 1Lu 1Ll 5Cn 1Lu 1Ll 1Cn 1Ll 1Cn 1Ll 1Lu 1Ll",
    "1Lu 1Ll 18Cn 3Lm 1Lu 1Ll 1Lo 2Lm 1Ll 7Lo 1Mn 3Lo 1Mn 4Lo 1Mn 17Lo 2Mc 2Mn 1Mc 4So 1Mn 3Cn",
    "6No 2So 1Sc 1So 6Cn 34Lo 4Po 8Cn 2Mc 32Lo 10Mc 2Mn 8Cn 2Po ANd 6Cn 12Mn 6Lo 3Po 1Lo 1Po 2Lo",
    "1Mn ANd 1CLo 8Mn 2Po 17Lo BMn 2Mc BCn 1Po 1DLo 3Cn 3Mn 1Mc 2FLo 1Mn 2Mc 4Mn 2Mc 2Mn 3Mc DPo",
    "1Cn 1Lm ANd 4Cn 2Po 5Lo 1Mn 1Lm 9Lo ANd 5Lo 1Cn 29Lo 6Mn 2Mc 2Mn 2Mc 2Mn 9Cn 3Lo 1Mn 8Lo 1Mn",
    "1Mc 2Cn ANd 2Cn 4Po 10Lo 1Lm 6Lo 3So 1Lo 1Mc 1Mn 1Mc 32Lo 1Mn 1Lo 3Mn 2Lo 2Mn 5Lo 2Mn 1Lo",
    "1Mn 1Lo 18Cn 2Lo 1Lm 2Po BLo 1Mc 2Mn 2Mc 2Po 1Lo 2Lm 1Mc 1Mn ACn 6Lo 2Cn 6Lo 2Cn 6Lo 9Cn 7Lo",
    "1Cn 7Lo 1Cn 2BLl 1Sk 4Lm 9Ll 1Lm 2Sk 4Cn 50Ll 23Lo 2Mc 1Mn 2Mc 1Mn 2Mc 1Po 1Mc 1Mn 2Cn ANd",
    "6Cn 2BA4Lo CCn 17Lo 4Cn 31Lo 4Cn 800Cs 1900Co 16ELo 2Cn 6ALo 26Cn 7Ll CCn 5Ll 5Cn 1Lo 1Mn",
    "ALo 1Sm DLo 1Cn 5Lo 1Cn 1Lo 1Cn 2Lo 1Cn 2Lo 1Cn 6CLo 11Sk 10Cn 16BLo 1Pe 1Ps 10So 40Lo 2Cn",
    "36Lo 7Cn 1So 20Cn CLo 1Sc 3So 10Mn 7Po 1Ps 1Pe 1Po 6Cn 10Mn 1Po 2Pd 2Pc 1Ps 1Pe 1Ps 1Pe 1Ps",
    "1Pe 1Ps 1Pe 1Ps 1Pe 1Ps 1Pe 1Ps 1Pe 1Ps 1Pe 2Po 1Ps 1Pe 4Po 3Pc 3Po 1Cn 4Po 1Pd 1Ps 1Pe 1Ps",
    "1Pe 1Ps 1Pe 3Po 1Sm 1Pd 3Sm 1Cn 1Po 1Sc 2Po 4Cn 5Lo 1Cn 87Lo 2Cn 1Cf 1Cn 3Po 1Sc 3Po 1Ps 1Pe",
    "1Po 1Sm 1Po 1Pd 2Po ANd 2Po 3Sm 2Po 1ALu 1Ps 1Po 1Pe 1Sk 1Pc 1Sk 1ALl 1Ps 1Sm 1Pe 1Sm 1Ps",
    "1Pe 1Po 1Ps 1Pe 2Po ALo 1Lm 2DLo 2Lm 1FLo 3Cn 6Lo 2Cn 6Lo 2Cn 6Lo 2Cn 3Lo 3Cn 2Sc 1Sm 1Sk",
    "1So 2Sc 1Cn 1So 4Sm 2So ACn 3Cf 2So 2Cn CLo 1Cn 1ALo 1Cn 13Lo 1Cn 2Lo 1Cn FLo 2Cn ELo 22Cn",
    "7BLo 5Cn 3Po 4Cn 2DNo 3Cn 9So 35Nl 4No 11So 2No 3So 1Cn DSo 3Cn 1So 2FCn 2DSo 1Mn 82Cn 1DLo",
    "3Cn 31Lo FCn 1Mn 1BNo 4Cn 20Lo 4No 9Cn 14Lo 1Nl 8Lo 1Nl 5Cn 26Lo 5Mn 5Cn 1ELo 1Cn 1Po 24Lo",
    "4Cn 8Lo 1Po 5Nl 2ACn 28Lu 28Ll 4ELo 2Cn ANd 6Cn 24Lu 4Cn 24Ll 4Cn 28Lo 8Cn 34Lo BCn 1Po BLu",
    "1Cn FLu 1Cn 7Lu 1Cn 2Lu 1Cn BLl 1Cn FLl 1Cn 7Ll 1Cn 2Ll 43Cn 137Lo 9Cn 16Lo ACn 8Lo 18Cn 6Lm",
    "1Cn 2ALm 1Cn 9Lm 45Cn 6Lo 2Cn 1Lo 1Cn 2CLo 1Cn 2Lo 3Cn 1Lo 2Cn 17Lo 1Cn 1Po 8No 17Lo 2So 7No",
    "1FLo 8Cn 9No 30Cn 13Lo 1Cn 2Lo 5Cn 5No 16Lo 6No 3Cn 1Po 1ALo 5Cn 1Po 40Cn 38Lo 4Cn 2No 2Lo",
    "10No 2Cn 2ENo 1Lo 3Mn 1Cn 2Mn 5Cn 4Mn 4Lo 1Cn 3Lo 1Cn 1DLo 2Cn 3Mn 4Cn 1Mn 9No 7Cn 9Po 7Cn",
    "1DLo 2No 1Po 1DLo 3No 20Cn 8Lo 1So 1CLo 2Mn 4Cn 5No 7Po 9Cn 36Lo 3Cn 7Po 16Lo 2Cn 8No 13Lo",
    "5Cn 8No 12Lo 7Cn 4Po CCn 7No 50Cn 49Lo 37Cn 33Lu DCn 33Ll 7Cn 6No 24Lo 4Mn 8Cn ANd 126Cn",
    "1FNo 1Cn 2ALo 1Cn 2Mn 1Pd 2Cn 2Lo 4BCn 3Mn 1DLo ANo 1Lo 8Cn 16Lo BMn 4No 5Po 16Cn 12Lo 4Mn",
    "4Po 26Cn 15Lo 7No 14Cn 17Lo 9Cn 1Mc 1Mn 1Mc 35Lo FMn 7Po 4Cn 14No ANd 1Mn 2Lo 2Mn 1Lo 9Cn",
    "3Mn 1Mc 2DLo 3Mc 4Mn 2Mc 2Mn 2Po 1Cf 4Po 1Mn ACn 1Cf 2Cn 19Lo 7Cn ANd 6Cn 3Mn 24Lo 5Mn 1Mc",
    "8Mn 1Cn ANd 4Po 1Lo 2Mc 1Lo 8Cn 23Lo 1Mn 2Po 1Lo 9Cn 2Mn 1Mc 30Lo 3Mc 9Mn 2Mc 4Lo 4Po 4Mn",
    "1Po 1Mc 1Mn ANd 1Lo 1Po 1Lo 3Po 1Cn 14No BCn 12Lo 1Cn 19Lo 3Mc 3Mn 2Mc 1Mn 1Mc 2Mn 6Po 1Mn",
    "2Lo 1Mn 3ECn 7Lo 1Cn 1Lo 1Cn 4Lo 1Cn FLo 1Cn ALo 1Po 6Cn 2FLo 1Mn 3Mc 8Mn 5Cn ANd 6Cn 2Mn",
    "2Mc 1Cn 8Lo 2Cn 2Lo 2Cn 16Lo 1Cn 7Lo 1Cn 2Lo 1Cn 5Lo 1Cn 2Mn 1Lo 2Mc 1Mn 4Mc 2Cn 2Mc 2Cn 3Mc",
    "2Cn 1Lo 6Cn 1Mc 5Cn 5Lo 2Mc 2Cn 7Mn 3Cn 5Mn 8BCn 35Lo 3Mc 8Mn 2Mc 3Mn 1Mc 1Mn 4Lo 5Po ANd",
    "2Po 1Cn 1Po 1Mn 3Lo 1ECn 30Lo 3Mc 6Mn 1Mc 1Mn 4Mc 2Mn 1Mc 2Mn 2Lo 1Po 1Lo 8Cn ANd A6Cn 2FLo",
    "3Mc 4Mn 2Cn 4Mc 2Mn 1Mc 2Mn 17Po 4Lo 2Mn 22Cn 30Lo 3Mc 8Mn 2Mc 1Mn 1Mc 2Mn 3Po 1Lo BCn ANd",
    "6Cn DPo 13Cn 2BLo 1Mn 1Mc 1Mn 2Mc 6Mn 1Mc 1Mn 1Lo 1Po 6Cn ANd 36Cn 1BLo 2Cn 3Mn 2Mc 4Mn 1Mc",
    "5Mn 4Cn ANd 2No 3Po 1So 7Lo B9Cn 2CLo 3Mc 9Mn 1Mc 2Mn 1Po 64Cn 20Lu 20Ll ANd 9No CCn 8Lo 2Cn",
    "1Lo 2Cn 8Lo 1Cn 2Lo 1Cn 18Lo 6Mc 1Cn 2Mc 2Cn 2Mn 1Mc 1Mn 1Lo 1Mc 1Lo 1Mc 1Mn 3Po 9Cn ANd",
    "46Cn 8Lo 2Cn 27Lo 3Mc 4Mn 2Cn 2Mn 4Mc 1Mn 1Lo 1Po 1Lo 1Mc 1BCn 1Lo AMn 28Lo 6Mn 1Mc 1Lo 4Mn",
    "8Po 1Mn 8Cn 1Lo 6Mn 2Mc 3Mn 2ELo DMn 1Mc 2Mn 3Po 1Lo 5Po DCn 49Lo 7Cn APo F6Cn 9Lo 1Cn 25Lo",
    "1Mc 7Mn 1Cn 6Mn 1Mc 1Mn 1Lo 5Po ACn ANd 13No 3Cn 2Po 1ELo 2Cn 16Mn 1Cn 1Mc 7Mn 1Mc 2Mn 1Mc",
    "2Mn 49Cn 7Lo 1Cn 2Lo 1Cn 26Lo 6Mn 3Cn 1Mn 1Cn 2Mn 1Cn 7Mn 1Lo 1Mn 8Cn ANd 6Cn 6Lo 1Cn 2Lo",
    "1Cn 20Lo 5Mc 1Cn 2Mn 1Cn 2Mc 1Mn 1Mc 1Mn 1Lo 7Cn ANd 136Cn 13Lo 2Mn 2Mc 2Po 7Cn 2Mn 1Lo 1Mc",
    "DLo 1Cn 22Lo 2Mc 5Mn 3Cn 2Mc 1Mn 1Mc 1Mn DPo ANd 56Cn 1Lo FCn 15No 8So 4Sc 11So DCn 1Po",
    "39ALo 66Cn 6FNl 1Cn 5Po BCn C4Lo A4CCn 61Lo 2Po DCn 430Lo 10Cf 1Mn 6Lo FMn FAACn 247Lo",
    "21B9Cn 239Lo 7Cn 1FLo 1Cn ANd 4Cn 2Po 4FLo 1Cn ANd 6Cn 1ELo 2Cn 5Mn 1Po ACn 30Lo 7Mn 5Po 4So",
    "4Lm 1Po 1So ACn ANd 1Cn 7No 1Cn 15Lo 5Cn 13Lo 2B0Cn 20Lu 20Ll 17No 4Po 65Cn 4BLo 4Cn 1Mn 1Lo",
    "37Mc 7Cn 4Mn DLm 40Cn 2Lm 1Po 1Lm 1Mn BCn 2Mc ECn 17F8Lo 8Cn 4D6Lo 2ACn 9Lo 22E7Cn 4Lm 1Cn",
    "7Lm 1Cn 2Lm 1Cn 123Lo FCn 1Lo 1DCn 3Lo 2Cn 1Lo ECn 4Lo 8Cn 18CLo 904Cn 6BLo 5Cn DLo 3Cn 9Lo",
    "7Cn ALo 2Cn 1So 2Mn 1Po 4Cf 125CCn 2EMn 2Cn 17Mn 9Cn 74So 3CCn F6So ACn 27So 2Cn 3CSo 2Mc",
    "3Mn 3So 6Mc 8Cf 8Mn 2So 7Mn 1ESo 4Mn 3DSo 15Cn 42So 3Mn 1So 7ACn 14No CCn 14No CCn 57So 9Cn",
    "19No 87Cn 1ALu 1ALl 1ALu 7Ll 1Cn 12Ll 1ALu 1ALl 1Lu 1Cn 2Lu 2Cn 1Lu 2Cn 2Lu 2Cn 4Lu 1Cn 8Lu",
    "4Ll 1Cn 1Ll 1Cn 7Ll 1Cn BLl 1ALu 1ALl 2Lu 1Cn 4Lu 2Cn 8Lu 1Cn 7Lu 1Cn 1ALl 2Lu 1Cn 4Lu 1Cn",
    "5Lu 1Cn 1Lu 3Cn 7Lu 1Cn 1ALl 1ALu 1ALl 1ALu 1ALl 1ALu 1ALl 1ALu 1ALl 1ALu 1ALl 1ALu 1CLl 2Cn",
    "19Lu 1Sm 19Ll 1Sm 6Ll 19Lu 1Sm 19Ll 1Sm 6Ll 19Lu 1Sm 19Ll 1Sm 6Ll 19Lu 1Sm 19Ll 1Sm 6Ll 19Lu",
    "1Sm 19Ll 1Sm 6Ll 1Lu 1Ll 2Cn 32Nd 200So 37Mn 4So 32Mn 8So 1Mn ESo 1Mn 2So 5Po FCn 5Mn 1Cn",
    "FMn 450Cn ALl 1Lo 14Ll 6Cn 6Ll D5Cn 7Mn 1Cn 11Mn 2Cn 7Mn 1Cn 2Mn 1Cn 5Mn 5Cn 3ELm 21Cn 1Mn",
    "70Cn 2DLo 3Cn 7Mn 7Lm 2Cn ANd 4Cn 1Lo 1So 140Cn 1ELo 1Mn 11Cn 2CLo 4Mn ANd 5Cn 1Sc 1D0Cn",
    "1BLo 1Lm 4Mn ANd 2E6Cn 7Lo 1Cn 4Lo 1Cn 2Lo 1Cn FLo 1Cn C5Lo 2Cn 9No 7Mn 29Cn 22Lu 22Ll 7Mn",
    "1Lm 4Cn ANd 4Cn 2Po 311Cn 3BNo 1So 3No 1Sc 4No 4CCn 2DNo 1So FNo C2Cn 4Lo 1Cn 1BLo 1Cn 2Lo",
    "1Cn 1Lo 2Cn 1Lo 1Cn ALo 1Cn 4Lo 1Cn 1Lo 1Cn 1Lo 6Cn 1Lo 4Cn 1Lo 1Cn 1Lo 1Cn 1Lo 1Cn 3Lo 1Cn",
    "2Lo 1Cn 1Lo 2Cn 1Lo 1Cn 1Lo 1Cn 1Lo 1Cn 1Lo 1Cn 1Lo 1Cn 2Lo 1Cn 1Lo 2Cn 4Lo 1Cn 7Lo 1Cn 4Lo",
    "1Cn 4Lo 1Cn 1Lo 1Cn ALo 1Cn 11Lo 5Cn 3Lo 1Cn 5Lo 1Cn 11Lo 34Cn 2Sm 10ECn 2CSo 4Cn 64So CCn",
    "FSo 2Cn FSo 1Cn FSo 1Cn 25So ACn DNo A1So 38Cn 1DSo DCn 2CSo 4Cn 9So 7Cn 2So ECn 6So 9ACn",
    "FBSo 5Sk 2D8So 4Cn 11So 3Cn DSo 3Cn 77So 4Cn 5FSo 6Cn CSo 4Cn 1So FCn CSo 4Cn 38So 8Cn ASo",
    "6Cn 28So 8Cn 1ESo 2Cn 2So 4ECn 154So CCn ESo 2Cn DSo 3Cn 9So 7Cn 2ESo 1Cn 7So 8Cn ESo 4Cn",
    "9So 7Cn 9So 7Cn 93So 1Cn 37So 25Cn ANd 406Cn A6E0Lo 20Cn 103ALo 6Cn DELo 2Cn 1682Lo ECn",
    "1D31Lo C1FCn 21ELo 5E2Cn 134BLo 5Cn 1060Lo ADC51Cn 1Cf 1ECn 60Cf 80Cn F0Mn FE10Cn FFFECo 2Cn",
    "FFFECo 2Cn"]

end Unicode
end PullDecoration
