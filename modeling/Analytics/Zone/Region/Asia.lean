import Analytics.Zone.Era
import Analytics.Zone.Season.Africa
import Analytics.Zone.Season.Asia
import Analytics.Zone.Season.Europe

/-!
Histories of the zones named Asia.
-/

namespace Analytics.Zone.Region.Asia

def almaty : List Era :=
  [ ⟨18468, .fixed 0, some ⟨1924, 5, .on 2, 0, .wall⟩⟩,
    ⟨18000, .fixed 0, some ⟨1930, 6, .on 21, 0, .wall⟩⟩,
    ⟨21600, .rules Season.russia, some ⟨1991, 3, .on 31, 7200, .standard⟩⟩,
    ⟨18000, .rules Season.russia, some ⟨1992, 1, .on 19, 7200, .standard⟩⟩,
    ⟨21600, .rules Season.russia, some ⟨2004, 10, .on 31, 7200, .standard⟩⟩,
    ⟨21600, .fixed 0, some ⟨2024, 3, .on 1, 0, .wall⟩⟩,
    ⟨18000, .fixed 0, none⟩]

def amman : List Era :=
  [ ⟨8624, .fixed 0, some ⟨1931, 1, .on 1, 0, .wall⟩⟩,
    ⟨7200, .rules Season.jordan, some ⟨2022, 10, .on 28, 0, .standard⟩⟩,
    ⟨10800, .fixed 0, none⟩]

def anadyr : List Era :=
  [ ⟨42596, .fixed 0, some ⟨1924, 5, .on 2, 0, .wall⟩⟩,
    ⟨43200, .fixed 0, some ⟨1930, 6, .on 21, 0, .wall⟩⟩,
    ⟨46800, .rules Season.russia, some ⟨1982, 4, .on 1, 0, .standard⟩⟩,
    ⟨43200, .rules Season.russia, some ⟨1991, 3, .on 31, 7200, .standard⟩⟩,
    ⟨39600, .rules Season.russia, some ⟨1992, 1, .on 19, 7200, .standard⟩⟩,
    ⟨43200, .rules Season.russia, some ⟨2010, 3, .on 28, 7200, .standard⟩⟩,
    ⟨39600, .rules Season.russia, some ⟨2011, 3, .on 27, 7200, .standard⟩⟩,
    ⟨43200, .fixed 0, none⟩]

def aqtau : List Era :=
  [ ⟨12064, .fixed 0, some ⟨1924, 5, .on 2, 0, .wall⟩⟩,
    ⟨14400, .fixed 0, some ⟨1930, 6, .on 21, 0, .wall⟩⟩,
    ⟨18000, .fixed 0, some ⟨1981, 10, .on 1, 0, .wall⟩⟩,
    ⟨21600, .fixed 0, some ⟨1982, 4, .on 1, 0, .wall⟩⟩,
    ⟨18000, .rules Season.russia, some ⟨1991, 3, .on 31, 7200, .standard⟩⟩,
    ⟨14400, .rules Season.russia, some ⟨1992, 1, .on 19, 7200, .standard⟩⟩,
    ⟨18000, .rules Season.russia, some ⟨1994, 9, .on 25, 7200, .standard⟩⟩,
    ⟨14400, .rules Season.russia, some ⟨2004, 10, .on 31, 7200, .standard⟩⟩,
    ⟨18000, .fixed 0, none⟩]

def aqtobe : List Era :=
  [ ⟨13720, .fixed 0, some ⟨1924, 5, .on 2, 0, .wall⟩⟩,
    ⟨14400, .fixed 0, some ⟨1930, 6, .on 21, 0, .wall⟩⟩,
    ⟨18000, .fixed 0, some ⟨1981, 4, .on 1, 0, .wall⟩⟩,
    ⟨18000, .fixed 3600, some ⟨1981, 10, .on 1, 0, .wall⟩⟩,
    ⟨21600, .fixed 0, some ⟨1982, 4, .on 1, 0, .wall⟩⟩,
    ⟨18000, .rules Season.russia, some ⟨1991, 3, .on 31, 7200, .standard⟩⟩,
    ⟨14400, .rules Season.russia, some ⟨1992, 1, .on 19, 7200, .standard⟩⟩,
    ⟨18000, .rules Season.russia, some ⟨2004, 10, .on 31, 7200, .standard⟩⟩,
    ⟨18000, .fixed 0, none⟩]

def ashgabat : List Era :=
  [ ⟨14012, .fixed 0, some ⟨1924, 5, .on 2, 0, .wall⟩⟩,
    ⟨14400, .fixed 0, some ⟨1930, 6, .on 21, 0, .wall⟩⟩,
    ⟨18000, .rules Season.russia, some ⟨1991, 3, .on 31, 7200, .wall⟩⟩,
    ⟨14400, .rules Season.russia, some ⟨1992, 1, .on 19, 7200, .wall⟩⟩,
    ⟨18000, .fixed 0, none⟩]

def atyrau : List Era :=
  [ ⟨12464, .fixed 0, some ⟨1924, 5, .on 2, 0, .wall⟩⟩,
    ⟨10800, .fixed 0, some ⟨1930, 6, .on 21, 0, .wall⟩⟩,
    ⟨18000, .fixed 0, some ⟨1981, 10, .on 1, 0, .wall⟩⟩,
    ⟨21600, .fixed 0, some ⟨1982, 4, .on 1, 0, .wall⟩⟩,
    ⟨18000, .rules Season.russia, some ⟨1991, 3, .on 31, 7200, .standard⟩⟩,
    ⟨14400, .rules Season.russia, some ⟨1992, 1, .on 19, 7200, .standard⟩⟩,
    ⟨18000, .rules Season.russia, some ⟨1999, 3, .on 28, 7200, .standard⟩⟩,
    ⟨14400, .rules Season.russia, some ⟨2004, 10, .on 31, 7200, .standard⟩⟩,
    ⟨18000, .fixed 0, none⟩]

def baghdad : List Era :=
  [ ⟨10660, .fixed 0, some ⟨1890, 1, .on 1, 0, .wall⟩⟩,
    ⟨10656, .fixed 0, some ⟨1918, 1, .on 1, 0, .wall⟩⟩,
    ⟨10800, .fixed 0, some ⟨1982, 5, .on 1, 0, .wall⟩⟩,
    ⟨10800, .rules Season.iraq, none⟩]

def baku : List Era :=
  [ ⟨11964, .fixed 0, some ⟨1924, 5, .on 2, 0, .wall⟩⟩,
    ⟨10800, .fixed 0, some ⟨1957, 3, .on 1, 0, .wall⟩⟩,
    ⟨14400, .rules Season.russia, some ⟨1991, 3, .on 31, 7200, .standard⟩⟩,
    ⟨10800, .rules Season.russia, some ⟨1992, 9, .last 0, 7200, .standard⟩⟩,
    ⟨14400, .fixed 0, some ⟨1996, 1, .on 1, 0, .wall⟩⟩,
    ⟨14400, .rules Season.europeanUnion, some ⟨1997, 1, .on 1, 0, .wall⟩⟩,
    ⟨14400, .rules Season.azerbaijan, none⟩]

def bangkok : List Era :=
  [ ⟨24124, .fixed 0, some ⟨1880, 1, .on 1, 0, .wall⟩⟩,
    ⟨24124, .fixed 0, some ⟨1920, 4, .on 1, 0, .wall⟩⟩,
    ⟨25200, .fixed 0, none⟩]

def barnaul : List Era :=
  [ ⟨20100, .fixed 0, some ⟨1919, 12, .on 10, 0, .wall⟩⟩,
    ⟨21600, .fixed 0, some ⟨1930, 6, .on 21, 0, .wall⟩⟩,
    ⟨25200, .rules Season.russia, some ⟨1991, 3, .on 31, 7200, .standard⟩⟩,
    ⟨21600, .rules Season.russia, some ⟨1992, 1, .on 19, 7200, .standard⟩⟩,
    ⟨25200, .rules Season.russia, some ⟨1995, 5, .on 28, 0, .wall⟩⟩,
    ⟨21600, .rules Season.russia, some ⟨2011, 3, .on 27, 7200, .standard⟩⟩,
    ⟨25200, .fixed 0, some ⟨2014, 10, .on 26, 7200, .standard⟩⟩,
    ⟨21600, .fixed 0, some ⟨2016, 3, .on 27, 7200, .standard⟩⟩,
    ⟨25200, .fixed 0, none⟩]

def beirut : List Era :=
  [ ⟨8520, .fixed 0, some ⟨1880, 1, .on 1, 0, .wall⟩⟩,
    ⟨7200, .rules Season.lebanon, none⟩]

def bishkek : List Era :=
  [ ⟨17904, .fixed 0, some ⟨1924, 5, .on 2, 0, .wall⟩⟩,
    ⟨18000, .fixed 0, some ⟨1930, 6, .on 21, 0, .wall⟩⟩,
    ⟨21600, .rules Season.russia, some ⟨1991, 3, .on 31, 7200, .standard⟩⟩,
    ⟨18000, .rules Season.russia, some ⟨1991, 8, .on 31, 7200, .wall⟩⟩,
    ⟨18000, .rules Season.kyrgyzstan, some ⟨2005, 8, .on 12, 0, .wall⟩⟩,
    ⟨21600, .fixed 0, none⟩]

def chita : List Era :=
  [ ⟨27232, .fixed 0, some ⟨1919, 12, .on 15, 0, .wall⟩⟩,
    ⟨28800, .fixed 0, some ⟨1930, 6, .on 21, 0, .wall⟩⟩,
    ⟨32400, .rules Season.russia, some ⟨1991, 3, .on 31, 7200, .standard⟩⟩,
    ⟨28800, .rules Season.russia, some ⟨1992, 1, .on 19, 7200, .standard⟩⟩,
    ⟨32400, .rules Season.russia, some ⟨2011, 3, .on 27, 7200, .standard⟩⟩,
    ⟨36000, .fixed 0, some ⟨2014, 10, .on 26, 7200, .standard⟩⟩,
    ⟨28800, .fixed 0, some ⟨2016, 3, .on 27, 7200, .wall⟩⟩,
    ⟨32400, .fixed 0, none⟩]

def colombo : List Era :=
  [ ⟨19164, .fixed 0, some ⟨1880, 1, .on 1, 0, .wall⟩⟩,
    ⟨19172, .fixed 0, some ⟨1906, 1, .on 1, 0, .wall⟩⟩,
    ⟨19800, .fixed 0, some ⟨1942, 1, .on 5, 0, .wall⟩⟩,
    ⟨19800, .fixed 1800, some ⟨1942, 9, .on 1, 0, .wall⟩⟩,
    ⟨19800, .fixed 3600, some ⟨1945, 10, .on 16, 7200, .wall⟩⟩,
    ⟨19800, .fixed 0, some ⟨1996, 5, .on 25, 0, .wall⟩⟩,
    ⟨23400, .fixed 0, some ⟨1996, 10, .on 26, 1800, .wall⟩⟩,
    ⟨21600, .fixed 0, some ⟨2006, 4, .on 15, 1800, .wall⟩⟩,
    ⟨19800, .fixed 0, none⟩]

def damascus : List Era :=
  [ ⟨8712, .fixed 0, some ⟨1920, 1, .on 1, 0, .wall⟩⟩,
    ⟨7200, .rules Season.syria, some ⟨2022, 10, .on 28, 0, .wall⟩⟩,
    ⟨10800, .fixed 0, none⟩]

def dhaka : List Era :=
  [ ⟨21700, .fixed 0, some ⟨1890, 1, .on 1, 0, .wall⟩⟩,
    ⟨21200, .fixed 0, some ⟨1941, 10, .on 1, 0, .wall⟩⟩,
    ⟨23400, .fixed 0, some ⟨1942, 5, .on 15, 0, .wall⟩⟩,
    ⟨19800, .fixed 0, some ⟨1942, 9, .on 1, 0, .wall⟩⟩,
    ⟨23400, .fixed 0, some ⟨1951, 9, .on 30, 0, .wall⟩⟩,
    ⟨21600, .fixed 0, some ⟨2009, 1, .on 1, 0, .wall⟩⟩,
    ⟨21600, .rules Season.bangladesh, none⟩]

def dili : List Era :=
  [ ⟨30140, .fixed 0, some ⟨1911, 12, .on 31, 57600, .universal⟩⟩,
    ⟨28800, .fixed 0, some ⟨1942, 2, .on 21, 82800, .wall⟩⟩,
    ⟨32400, .fixed 0, some ⟨1976, 5, .on 3, 0, .wall⟩⟩,
    ⟨28800, .fixed 0, some ⟨2000, 9, .on 17, 0, .wall⟩⟩,
    ⟨32400, .fixed 0, none⟩]

def dubai : List Era :=
  [ ⟨13272, .fixed 0, some ⟨1920, 1, .on 1, 0, .wall⟩⟩,
    ⟨14400, .fixed 0, none⟩]

def dushanbe : List Era :=
  [ ⟨16512, .fixed 0, some ⟨1924, 5, .on 2, 0, .wall⟩⟩,
    ⟨18000, .fixed 0, some ⟨1930, 6, .on 21, 0, .wall⟩⟩,
    ⟨21600, .rules Season.russia, some ⟨1991, 3, .on 31, 7200, .standard⟩⟩,
    ⟨18000, .fixed 3600, some ⟨1991, 9, .on 9, 7200, .standard⟩⟩,
    ⟨18000, .fixed 0, none⟩]

def famagusta : List Era :=
  [ ⟨8148, .fixed 0, some ⟨1921, 11, .on 14, 0, .wall⟩⟩,
    ⟨7200, .rules Season.cyprus, some ⟨1998, 9, .on 1, 0, .wall⟩⟩,
    ⟨7200, .rules Season.europeanUnion, some ⟨2016, 9, .on 8, 0, .wall⟩⟩,
    ⟨10800, .fixed 0, some ⟨2017, 10, .on 29, 3600, .universal⟩⟩,
    ⟨7200, .rules Season.europeanUnion, none⟩]

def gaza : List Era :=
  [ ⟨8272, .fixed 0, some ⟨1900, 10, .on 1, 0, .wall⟩⟩,
    ⟨7200, .rules Season.israel, some ⟨1948, 5, .on 15, 0, .wall⟩⟩,
    ⟨7200, .rules Season.egypt, some ⟨1967, 6, .on 5, 0, .wall⟩⟩,
    ⟨7200, .rules Season.israel, some ⟨1996, 1, .on 1, 0, .wall⟩⟩,
    ⟨7200, .rules Season.jordan, some ⟨1999, 1, .on 1, 0, .wall⟩⟩,
    ⟨7200, .rules Season.palestine, some ⟨2008, 8, .on 29, 0, .wall⟩⟩,
    ⟨7200, .fixed 0, some ⟨2008, 9, .on 1, 0, .wall⟩⟩,
    ⟨7200, .rules Season.palestine, some ⟨2010, 1, .on 1, 0, .wall⟩⟩,
    ⟨7200, .fixed 0, some ⟨2010, 3, .on 27, 60, .wall⟩⟩,
    ⟨7200, .rules Season.palestine, some ⟨2011, 8, .on 1, 0, .wall⟩⟩,
    ⟨7200, .fixed 0, some ⟨2012, 1, .on 1, 0, .wall⟩⟩,
    ⟨7200, .rules Season.palestine, none⟩]

def hebron : List Era :=
  [ ⟨8423, .fixed 0, some ⟨1900, 10, .on 1, 0, .wall⟩⟩,
    ⟨7200, .rules Season.israel, some ⟨1948, 5, .on 15, 0, .wall⟩⟩,
    ⟨7200, .rules Season.egypt, some ⟨1967, 6, .on 5, 0, .wall⟩⟩,
    ⟨7200, .rules Season.israel, some ⟨1996, 1, .on 1, 0, .wall⟩⟩,
    ⟨7200, .rules Season.jordan, some ⟨1999, 1, .on 1, 0, .wall⟩⟩,
    ⟨7200, .rules Season.palestine, none⟩]

def hoChiMinh : List Era :=
  [ ⟨25590, .fixed 0, some ⟨1906, 7, .on 1, 0, .wall⟩⟩,
    ⟨25590, .fixed 0, some ⟨1911, 5, .on 1, 0, .wall⟩⟩,
    ⟨25200, .fixed 0, some ⟨1942, 12, .on 31, 82800, .wall⟩⟩,
    ⟨28800, .fixed 0, some ⟨1945, 3, .on 14, 82800, .wall⟩⟩,
    ⟨32400, .fixed 0, some ⟨1945, 9, .on 1, 86400, .wall⟩⟩,
    ⟨25200, .fixed 0, some ⟨1947, 4, .on 1, 0, .wall⟩⟩,
    ⟨28800, .fixed 0, some ⟨1955, 7, .on 1, 3600, .wall⟩⟩,
    ⟨25200, .fixed 0, some ⟨1959, 12, .on 31, 82800, .wall⟩⟩,
    ⟨28800, .fixed 0, some ⟨1975, 6, .on 13, 0, .wall⟩⟩,
    ⟨25200, .fixed 0, none⟩]

def hongKong : List Era :=
  [ ⟨27402, .fixed 0, some ⟨1904, 10, .on 29, 61200, .universal⟩⟩,
    ⟨28800, .fixed 0, some ⟨1941, 6, .on 15, 10800, .wall⟩⟩,
    ⟨28800, .fixed 3600, some ⟨1941, 10, .on 1, 14400, .wall⟩⟩,
    ⟨28800, .fixed 1800, some ⟨1941, 12, .on 25, 0, .wall⟩⟩,
    ⟨32400, .fixed 0, some ⟨1945, 11, .on 18, 7200, .wall⟩⟩,
    ⟨28800, .rules Season.hongKong, none⟩]

def hovd : List Era :=
  [ ⟨21996, .fixed 0, some ⟨1905, 8, .on 1, 0, .wall⟩⟩,
    ⟨21600, .fixed 0, some ⟨1978, 1, .on 1, 0, .wall⟩⟩,
    ⟨25200, .rules Season.mongolia, none⟩]

def irkutsk : List Era :=
  [ ⟨25025, .fixed 0, some ⟨1880, 1, .on 1, 0, .wall⟩⟩,
    ⟨25025, .fixed 0, some ⟨1920, 1, .on 25, 0, .wall⟩⟩,
    ⟨25200, .fixed 0, some ⟨1930, 6, .on 21, 0, .wall⟩⟩,
    ⟨28800, .rules Season.russia, some ⟨1991, 3, .on 31, 7200, .standard⟩⟩,
    ⟨25200, .rules Season.russia, some ⟨1992, 1, .on 19, 7200, .standard⟩⟩,
    ⟨28800, .rules Season.russia, some ⟨2011, 3, .on 27, 7200, .standard⟩⟩,
    ⟨32400, .fixed 0, some ⟨2014, 10, .on 26, 7200, .standard⟩⟩,
    ⟨28800, .fixed 0, none⟩]

def jakarta : List Era :=
  [ ⟨25632, .fixed 0, some ⟨1867, 8, .on 10, 0, .wall⟩⟩,
    ⟨25632, .fixed 0, some ⟨1923, 12, .on 31, 60000, .universal⟩⟩,
    ⟨26400, .fixed 0, some ⟨1932, 11, .on 1, 0, .wall⟩⟩,
    ⟨27000, .fixed 0, some ⟨1942, 3, .on 23, 0, .wall⟩⟩,
    ⟨32400, .fixed 0, some ⟨1945, 9, .on 23, 0, .wall⟩⟩,
    ⟨27000, .fixed 0, some ⟨1948, 5, .on 1, 0, .wall⟩⟩,
    ⟨28800, .fixed 0, some ⟨1950, 5, .on 1, 0, .wall⟩⟩,
    ⟨27000, .fixed 0, some ⟨1964, 1, .on 1, 0, .wall⟩⟩,
    ⟨25200, .fixed 0, none⟩]

def jayapura : List Era :=
  [ ⟨33768, .fixed 0, some ⟨1932, 11, .on 1, 0, .wall⟩⟩,
    ⟨32400, .fixed 0, some ⟨1944, 9, .on 1, 0, .wall⟩⟩,
    ⟨34200, .fixed 0, some ⟨1964, 1, .on 1, 0, .wall⟩⟩,
    ⟨32400, .fixed 0, none⟩]

def jerusalem : List Era :=
  [ ⟨8454, .fixed 0, some ⟨1880, 1, .on 1, 0, .wall⟩⟩,
    ⟨8440, .fixed 0, some ⟨1918, 1, .on 1, 0, .wall⟩⟩,
    ⟨7200, .rules Season.israel, none⟩]

def kabul : List Era :=
  [ ⟨16608, .fixed 0, some ⟨1890, 1, .on 1, 0, .wall⟩⟩,
    ⟨14400, .fixed 0, some ⟨1945, 1, .on 1, 0, .wall⟩⟩,
    ⟨16200, .fixed 0, none⟩]

def kamchatka : List Era :=
  [ ⟨38076, .fixed 0, some ⟨1922, 11, .on 10, 0, .wall⟩⟩,
    ⟨39600, .fixed 0, some ⟨1930, 6, .on 21, 0, .wall⟩⟩,
    ⟨43200, .rules Season.russia, some ⟨1991, 3, .on 31, 7200, .standard⟩⟩,
    ⟨39600, .rules Season.russia, some ⟨1992, 1, .on 19, 7200, .standard⟩⟩,
    ⟨43200, .rules Season.russia, some ⟨2010, 3, .on 28, 7200, .standard⟩⟩,
    ⟨39600, .rules Season.russia, some ⟨2011, 3, .on 27, 7200, .standard⟩⟩,
    ⟨43200, .fixed 0, none⟩]

def karachi : List Era :=
  [ ⟨16092, .fixed 0, some ⟨1907, 1, .on 1, 0, .wall⟩⟩,
    ⟨19800, .fixed 0, some ⟨1942, 9, .on 1, 0, .wall⟩⟩,
    ⟨19800, .fixed 3600, some ⟨1945, 10, .on 15, 0, .wall⟩⟩,
    ⟨19800, .fixed 0, some ⟨1951, 9, .on 30, 0, .wall⟩⟩,
    ⟨18000, .fixed 0, some ⟨1971, 3, .on 26, 0, .wall⟩⟩,
    ⟨18000, .rules Season.pakistan, none⟩]

def kathmandu : List Era :=
  [ ⟨20476, .fixed 0, some ⟨1920, 1, .on 1, 0, .wall⟩⟩,
    ⟨19800, .fixed 0, some ⟨1986, 1, .on 1, 0, .wall⟩⟩,
    ⟨20700, .fixed 0, none⟩]

def khandyga : List Era :=
  [ ⟨32533, .fixed 0, some ⟨1919, 12, .on 15, 0, .wall⟩⟩,
    ⟨28800, .fixed 0, some ⟨1930, 6, .on 21, 0, .wall⟩⟩,
    ⟨32400, .rules Season.russia, some ⟨1991, 3, .on 31, 7200, .standard⟩⟩,
    ⟨28800, .rules Season.russia, some ⟨1992, 1, .on 19, 7200, .standard⟩⟩,
    ⟨32400, .rules Season.russia, some ⟨2004, 1, .on 1, 0, .wall⟩⟩,
    ⟨36000, .rules Season.russia, some ⟨2011, 3, .on 27, 7200, .standard⟩⟩,
    ⟨39600, .fixed 0, some ⟨2011, 9, .on 13, 0, .standard⟩⟩,
    ⟨36000, .fixed 0, some ⟨2014, 10, .on 26, 7200, .standard⟩⟩,
    ⟨32400, .fixed 0, none⟩]

def kolkata : List Era :=
  [ ⟨21208, .fixed 0, some ⟨1854, 6, .on 28, 0, .wall⟩⟩,
    ⟨21200, .fixed 0, some ⟨1870, 1, .on 1, 0, .wall⟩⟩,
    ⟨19270, .fixed 0, some ⟨1906, 1, .on 1, 0, .wall⟩⟩,
    ⟨19800, .fixed 0, some ⟨1941, 10, .on 1, 0, .wall⟩⟩,
    ⟨19800, .fixed 3600, some ⟨1942, 5, .on 15, 0, .wall⟩⟩,
    ⟨19800, .fixed 0, some ⟨1942, 9, .on 1, 0, .wall⟩⟩,
    ⟨19800, .fixed 3600, some ⟨1945, 10, .on 15, 0, .wall⟩⟩,
    ⟨19800, .fixed 0, none⟩]

def krasnoyarsk : List Era :=
  [ ⟨22286, .fixed 0, some ⟨1920, 1, .on 6, 0, .wall⟩⟩,
    ⟨21600, .fixed 0, some ⟨1930, 6, .on 21, 0, .wall⟩⟩,
    ⟨25200, .rules Season.russia, some ⟨1991, 3, .on 31, 7200, .standard⟩⟩,
    ⟨21600, .rules Season.russia, some ⟨1992, 1, .on 19, 7200, .standard⟩⟩,
    ⟨25200, .rules Season.russia, some ⟨2011, 3, .on 27, 7200, .standard⟩⟩,
    ⟨28800, .fixed 0, some ⟨2014, 10, .on 26, 7200, .standard⟩⟩,
    ⟨25200, .fixed 0, none⟩]

def kuching : List Era :=
  [ ⟨26480, .fixed 0, some ⟨1926, 3, .on 1, 0, .wall⟩⟩,
    ⟨27000, .fixed 0, some ⟨1933, 1, .on 1, 0, .wall⟩⟩,
    ⟨28800, .rules Season.borneo, some ⟨1942, 2, .on 16, 0, .wall⟩⟩,
    ⟨32400, .fixed 0, some ⟨1945, 9, .on 12, 0, .wall⟩⟩,
    ⟨28800, .fixed 0, none⟩]

def macau : List Era :=
  [ ⟨27250, .fixed 0, some ⟨1904, 10, .on 30, 0, .wall⟩⟩,
    ⟨28800, .fixed 0, some ⟨1941, 12, .on 21, 82800, .wall⟩⟩,
    ⟨32400, .rules Season.macau, some ⟨1945, 9, .on 30, 86400, .wall⟩⟩,
    ⟨28800, .rules Season.macau, none⟩]

def magadan : List Era :=
  [ ⟨36192, .fixed 0, some ⟨1924, 5, .on 2, 0, .wall⟩⟩,
    ⟨36000, .fixed 0, some ⟨1930, 6, .on 21, 0, .wall⟩⟩,
    ⟨39600, .rules Season.russia, some ⟨1991, 3, .on 31, 7200, .standard⟩⟩,
    ⟨36000, .rules Season.russia, some ⟨1992, 1, .on 19, 7200, .standard⟩⟩,
    ⟨39600, .rules Season.russia, some ⟨2011, 3, .on 27, 7200, .standard⟩⟩,
    ⟨43200, .fixed 0, some ⟨2014, 10, .on 26, 7200, .standard⟩⟩,
    ⟨36000, .fixed 0, some ⟨2016, 4, .on 24, 7200, .standard⟩⟩,
    ⟨39600, .fixed 0, none⟩]

def makassar : List Era :=
  [ ⟨28656, .fixed 0, some ⟨1920, 1, .on 1, 0, .wall⟩⟩,
    ⟨28656, .fixed 0, some ⟨1932, 11, .on 1, 0, .wall⟩⟩,
    ⟨28800, .fixed 0, some ⟨1942, 2, .on 9, 0, .wall⟩⟩,
    ⟨32400, .fixed 0, some ⟨1945, 9, .on 23, 0, .wall⟩⟩,
    ⟨28800, .fixed 0, none⟩]

def manila : List Era :=
  [ ⟨-57368, .fixed 0, some ⟨1844, 12, .on 31, 0, .wall⟩⟩,
    ⟨29032, .fixed 0, some ⟨1899, 9, .on 6, 14400, .universal⟩⟩,
    ⟨28800, .rules Season.philippines, some ⟨1942, 2, .on 11, 86400, .wall⟩⟩,
    ⟨32400, .fixed 0, some ⟨1945, 3, .on 4, 0, .wall⟩⟩,
    ⟨28800, .rules Season.philippines, none⟩]

def nicosia : List Era :=
  [ ⟨8008, .fixed 0, some ⟨1921, 11, .on 14, 0, .wall⟩⟩,
    ⟨7200, .rules Season.cyprus, some ⟨1998, 9, .on 1, 0, .wall⟩⟩,
    ⟨7200, .rules Season.europeanUnion, none⟩]

def novokuznetsk : List Era :=
  [ ⟨20928, .fixed 0, some ⟨1924, 5, .on 1, 0, .wall⟩⟩,
    ⟨21600, .fixed 0, some ⟨1930, 6, .on 21, 0, .wall⟩⟩,
    ⟨25200, .rules Season.russia, some ⟨1991, 3, .on 31, 7200, .standard⟩⟩,
    ⟨21600, .rules Season.russia, some ⟨1992, 1, .on 19, 7200, .standard⟩⟩,
    ⟨25200, .rules Season.russia, some ⟨2010, 3, .on 28, 7200, .standard⟩⟩,
    ⟨21600, .rules Season.russia, some ⟨2011, 3, .on 27, 7200, .standard⟩⟩,
    ⟨25200, .fixed 0, none⟩]

def novosibirsk : List Era :=
  [ ⟨19900, .fixed 0, some ⟨1919, 12, .on 14, 21600, .wall⟩⟩,
    ⟨21600, .fixed 0, some ⟨1930, 6, .on 21, 0, .wall⟩⟩,
    ⟨25200, .rules Season.russia, some ⟨1991, 3, .on 31, 7200, .standard⟩⟩,
    ⟨21600, .rules Season.russia, some ⟨1992, 1, .on 19, 7200, .standard⟩⟩,
    ⟨25200, .rules Season.russia, some ⟨1993, 5, .on 23, 0, .wall⟩⟩,
    ⟨21600, .rules Season.russia, some ⟨2011, 3, .on 27, 7200, .standard⟩⟩,
    ⟨25200, .fixed 0, some ⟨2014, 10, .on 26, 7200, .standard⟩⟩,
    ⟨21600, .fixed 0, some ⟨2016, 7, .on 24, 7200, .standard⟩⟩,
    ⟨25200, .fixed 0, none⟩]

def omsk : List Era :=
  [ ⟨17610, .fixed 0, some ⟨1919, 11, .on 14, 0, .wall⟩⟩,
    ⟨18000, .fixed 0, some ⟨1930, 6, .on 21, 0, .wall⟩⟩,
    ⟨21600, .rules Season.russia, some ⟨1991, 3, .on 31, 7200, .standard⟩⟩,
    ⟨18000, .rules Season.russia, some ⟨1992, 1, .on 19, 7200, .standard⟩⟩,
    ⟨21600, .rules Season.russia, some ⟨2011, 3, .on 27, 7200, .standard⟩⟩,
    ⟨25200, .fixed 0, some ⟨2014, 10, .on 26, 7200, .standard⟩⟩,
    ⟨21600, .fixed 0, none⟩]

def oral : List Era :=
  [ ⟨12324, .fixed 0, some ⟨1924, 5, .on 2, 0, .wall⟩⟩,
    ⟨10800, .fixed 0, some ⟨1930, 6, .on 21, 0, .wall⟩⟩,
    ⟨18000, .fixed 0, some ⟨1981, 4, .on 1, 0, .wall⟩⟩,
    ⟨18000, .fixed 3600, some ⟨1981, 10, .on 1, 0, .wall⟩⟩,
    ⟨21600, .fixed 0, some ⟨1982, 4, .on 1, 0, .wall⟩⟩,
    ⟨18000, .rules Season.russia, some ⟨1989, 3, .on 26, 7200, .standard⟩⟩,
    ⟨14400, .rules Season.russia, some ⟨1992, 1, .on 19, 7200, .standard⟩⟩,
    ⟨18000, .rules Season.russia, some ⟨1992, 3, .on 29, 7200, .standard⟩⟩,
    ⟨14400, .rules Season.russia, some ⟨2004, 10, .on 31, 7200, .standard⟩⟩,
    ⟨18000, .fixed 0, none⟩]

def pontianak : List Era :=
  [ ⟨26240, .fixed 0, some ⟨1908, 5, .on 1, 0, .wall⟩⟩,
    ⟨26240, .fixed 0, some ⟨1932, 11, .on 1, 0, .wall⟩⟩,
    ⟨27000, .fixed 0, some ⟨1942, 1, .on 29, 0, .wall⟩⟩,
    ⟨32400, .fixed 0, some ⟨1945, 9, .on 23, 0, .wall⟩⟩,
    ⟨27000, .fixed 0, some ⟨1948, 5, .on 1, 0, .wall⟩⟩,
    ⟨28800, .fixed 0, some ⟨1950, 5, .on 1, 0, .wall⟩⟩,
    ⟨27000, .fixed 0, some ⟨1964, 1, .on 1, 0, .wall⟩⟩,
    ⟨28800, .fixed 0, some ⟨1988, 1, .on 1, 0, .wall⟩⟩,
    ⟨25200, .fixed 0, none⟩]

def pyongyang : List Era :=
  [ ⟨30180, .fixed 0, some ⟨1908, 4, .on 1, 0, .wall⟩⟩,
    ⟨30600, .fixed 0, some ⟨1912, 1, .on 1, 0, .wall⟩⟩,
    ⟨32400, .fixed 0, some ⟨1945, 8, .on 24, 0, .wall⟩⟩,
    ⟨32400, .fixed 0, some ⟨2015, 8, .on 15, 0, .wall⟩⟩,
    ⟨30600, .fixed 0, some ⟨2018, 5, .on 4, 84600, .wall⟩⟩,
    ⟨32400, .fixed 0, none⟩]

def qatar : List Era :=
  [ ⟨12368, .fixed 0, some ⟨1920, 1, .on 1, 0, .wall⟩⟩,
    ⟨14400, .fixed 0, some ⟨1972, 6, .on 1, 0, .wall⟩⟩,
    ⟨10800, .fixed 0, none⟩]

def qostanay : List Era :=
  [ ⟨15268, .fixed 0, some ⟨1924, 5, .on 2, 0, .wall⟩⟩,
    ⟨14400, .fixed 0, some ⟨1930, 6, .on 21, 0, .wall⟩⟩,
    ⟨18000, .fixed 0, some ⟨1981, 4, .on 1, 0, .wall⟩⟩,
    ⟨18000, .fixed 3600, some ⟨1981, 10, .on 1, 0, .wall⟩⟩,
    ⟨21600, .fixed 0, some ⟨1982, 4, .on 1, 0, .wall⟩⟩,
    ⟨18000, .rules Season.russia, some ⟨1991, 3, .on 31, 7200, .standard⟩⟩,
    ⟨14400, .rules Season.russia, some ⟨1992, 1, .on 19, 7200, .standard⟩⟩,
    ⟨18000, .rules Season.russia, some ⟨2004, 10, .on 31, 7200, .standard⟩⟩,
    ⟨21600, .fixed 0, some ⟨2024, 3, .on 1, 0, .wall⟩⟩,
    ⟨18000, .fixed 0, none⟩]

def qyzylorda : List Era :=
  [ ⟨15712, .fixed 0, some ⟨1924, 5, .on 2, 0, .wall⟩⟩,
    ⟨14400, .fixed 0, some ⟨1930, 6, .on 21, 0, .wall⟩⟩,
    ⟨18000, .fixed 0, some ⟨1981, 4, .on 1, 0, .wall⟩⟩,
    ⟨18000, .fixed 3600, some ⟨1981, 10, .on 1, 0, .wall⟩⟩,
    ⟨21600, .fixed 0, some ⟨1982, 4, .on 1, 0, .wall⟩⟩,
    ⟨18000, .rules Season.russia, some ⟨1991, 3, .on 31, 7200, .standard⟩⟩,
    ⟨14400, .rules Season.russia, some ⟨1991, 9, .on 29, 7200, .standard⟩⟩,
    ⟨18000, .rules Season.russia, some ⟨1992, 1, .on 19, 7200, .standard⟩⟩,
    ⟨21600, .rules Season.russia, some ⟨1992, 3, .on 29, 7200, .standard⟩⟩,
    ⟨18000, .rules Season.russia, some ⟨2004, 10, .on 31, 7200, .standard⟩⟩,
    ⟨21600, .fixed 0, some ⟨2018, 12, .on 21, 0, .wall⟩⟩,
    ⟨18000, .fixed 0, none⟩]

def riyadh : List Era :=
  [ ⟨11212, .fixed 0, some ⟨1947, 3, .on 14, 0, .wall⟩⟩,
    ⟨10800, .fixed 0, none⟩]

def sakhalin : List Era :=
  [ ⟨34248, .fixed 0, some ⟨1905, 8, .on 23, 0, .wall⟩⟩,
    ⟨32400, .fixed 0, some ⟨1945, 8, .on 25, 0, .wall⟩⟩,
    ⟨39600, .rules Season.russia, some ⟨1991, 3, .on 31, 7200, .standard⟩⟩,
    ⟨36000, .rules Season.russia, some ⟨1992, 1, .on 19, 7200, .standard⟩⟩,
    ⟨39600, .rules Season.russia, some ⟨1997, 3, .last 0, 7200, .standard⟩⟩,
    ⟨36000, .rules Season.russia, some ⟨2011, 3, .on 27, 7200, .standard⟩⟩,
    ⟨39600, .fixed 0, some ⟨2014, 10, .on 26, 7200, .standard⟩⟩,
    ⟨36000, .fixed 0, some ⟨2016, 3, .on 27, 7200, .standard⟩⟩,
    ⟨39600, .fixed 0, none⟩]

def samarkand : List Era :=
  [ ⟨16073, .fixed 0, some ⟨1924, 5, .on 2, 0, .wall⟩⟩,
    ⟨14400, .fixed 0, some ⟨1930, 6, .on 21, 0, .wall⟩⟩,
    ⟨18000, .fixed 0, some ⟨1981, 4, .on 1, 0, .wall⟩⟩,
    ⟨18000, .fixed 3600, some ⟨1981, 10, .on 1, 0, .wall⟩⟩,
    ⟨21600, .fixed 0, some ⟨1982, 4, .on 1, 0, .wall⟩⟩,
    ⟨18000, .rules Season.russia, some ⟨1992, 1, .on 1, 0, .wall⟩⟩,
    ⟨18000, .fixed 0, none⟩]

def seoul : List Era :=
  [ ⟨30472, .fixed 0, some ⟨1908, 4, .on 1, 0, .wall⟩⟩,
    ⟨30600, .fixed 0, some ⟨1912, 1, .on 1, 0, .wall⟩⟩,
    ⟨32400, .fixed 0, some ⟨1945, 9, .on 8, 0, .wall⟩⟩,
    ⟨32400, .rules Season.korea, some ⟨1954, 3, .on 21, 0, .wall⟩⟩,
    ⟨30600, .rules Season.korea, some ⟨1961, 8, .on 10, 0, .wall⟩⟩,
    ⟨32400, .rules Season.korea, none⟩]

def shanghai : List Era :=
  [ ⟨29143, .fixed 0, some ⟨1901, 1, .on 1, 0, .wall⟩⟩,
    ⟨28800, .rules Season.shanghai, some ⟨1949, 5, .on 28, 0, .wall⟩⟩,
    ⟨28800, .rules Season.china, none⟩]

def singapore : List Era :=
  [ ⟨24925, .fixed 0, some ⟨1901, 1, .on 1, 0, .wall⟩⟩,
    ⟨24925, .fixed 0, some ⟨1905, 6, .on 1, 0, .wall⟩⟩,
    ⟨25200, .fixed 0, some ⟨1933, 1, .on 1, 0, .wall⟩⟩,
    ⟨25200, .fixed 1200, some ⟨1936, 1, .on 1, 0, .wall⟩⟩,
    ⟨26400, .fixed 0, some ⟨1941, 9, .on 1, 0, .wall⟩⟩,
    ⟨27000, .fixed 0, some ⟨1942, 2, .on 16, 0, .wall⟩⟩,
    ⟨32400, .fixed 0, some ⟨1945, 9, .on 12, 0, .wall⟩⟩,
    ⟨27000, .fixed 0, some ⟨1981, 12, .on 31, 57600, .universal⟩⟩,
    ⟨28800, .fixed 0, none⟩]

def srednekolymsk : List Era :=
  [ ⟨36892, .fixed 0, some ⟨1924, 5, .on 2, 0, .wall⟩⟩,
    ⟨36000, .fixed 0, some ⟨1930, 6, .on 21, 0, .wall⟩⟩,
    ⟨39600, .rules Season.russia, some ⟨1991, 3, .on 31, 7200, .standard⟩⟩,
    ⟨36000, .rules Season.russia, some ⟨1992, 1, .on 19, 7200, .standard⟩⟩,
    ⟨39600, .rules Season.russia, some ⟨2011, 3, .on 27, 7200, .standard⟩⟩,
    ⟨43200, .fixed 0, some ⟨2014, 10, .on 26, 7200, .standard⟩⟩,
    ⟨39600, .fixed 0, none⟩]

def taipei : List Era :=
  [ ⟨29160, .fixed 0, some ⟨1896, 1, .on 1, 0, .wall⟩⟩,
    ⟨28800, .fixed 0, some ⟨1937, 10, .on 1, 0, .wall⟩⟩,
    ⟨32400, .fixed 0, some ⟨1945, 9, .on 21, 3600, .wall⟩⟩,
    ⟨28800, .rules Season.taiwan, none⟩]

def tashkent : List Era :=
  [ ⟨16631, .fixed 0, some ⟨1924, 5, .on 2, 0, .wall⟩⟩,
    ⟨18000, .fixed 0, some ⟨1930, 6, .on 21, 0, .wall⟩⟩,
    ⟨21600, .rules Season.russia, some ⟨1991, 3, .on 31, 7200, .wall⟩⟩,
    ⟨18000, .rules Season.russia, some ⟨1992, 1, .on 1, 0, .wall⟩⟩,
    ⟨18000, .fixed 0, none⟩]

def tbilisi : List Era :=
  [ ⟨10751, .fixed 0, some ⟨1880, 1, .on 1, 0, .wall⟩⟩,
    ⟨10751, .fixed 0, some ⟨1924, 5, .on 2, 0, .wall⟩⟩,
    ⟨10800, .fixed 0, some ⟨1957, 3, .on 1, 0, .wall⟩⟩,
    ⟨14400, .rules Season.russia, some ⟨1991, 3, .on 31, 7200, .standard⟩⟩,
    ⟨10800, .rules Season.russia, some ⟨1992, 1, .on 1, 0, .wall⟩⟩,
    ⟨10800, .rules Season.easternEurope, some ⟨1994, 9, .last 0, 0, .wall⟩⟩,
    ⟨14400, .rules Season.easternEurope, some ⟨1996, 10, .last 0, 0, .wall⟩⟩,
    ⟨14400, .fixed 3600, some ⟨1997, 3, .last 0, 0, .wall⟩⟩,
    ⟨14400, .rules Season.easternEurope, some ⟨2004, 6, .on 27, 0, .wall⟩⟩,
    ⟨10800, .rules Season.russia, some ⟨2005, 3, .last 0, 7200, .wall⟩⟩,
    ⟨14400, .fixed 0, none⟩]

def tehran : List Era :=
  [ ⟨12344, .fixed 0, some ⟨1916, 1, .on 1, 0, .wall⟩⟩,
    ⟨12344, .fixed 0, some ⟨1935, 6, .on 13, 0, .wall⟩⟩,
    ⟨12600, .rules Season.iran, some ⟨1977, 10, .on 20, 86400, .wall⟩⟩,
    ⟨14400, .rules Season.iran, some ⟨1978, 11, .on 10, 86400, .wall⟩⟩,
    ⟨12600, .rules Season.iran, none⟩]

def thimphu : List Era :=
  [ ⟨21516, .fixed 0, some ⟨1947, 8, .on 15, 0, .wall⟩⟩,
    ⟨19800, .fixed 0, some ⟨1987, 10, .on 1, 0, .wall⟩⟩,
    ⟨21600, .fixed 0, none⟩]

def tokyo : List Era :=
  [ ⟨33539, .fixed 0, some ⟨1887, 12, .on 31, 54000, .universal⟩⟩,
    ⟨32400, .rules Season.japan, none⟩]

def tomsk : List Era :=
  [ ⟨20391, .fixed 0, some ⟨1919, 12, .on 22, 0, .wall⟩⟩,
    ⟨21600, .fixed 0, some ⟨1930, 6, .on 21, 0, .wall⟩⟩,
    ⟨25200, .rules Season.russia, some ⟨1991, 3, .on 31, 7200, .standard⟩⟩,
    ⟨21600, .rules Season.russia, some ⟨1992, 1, .on 19, 7200, .standard⟩⟩,
    ⟨25200, .rules Season.russia, some ⟨2002, 5, .on 1, 10800, .wall⟩⟩,
    ⟨21600, .rules Season.russia, some ⟨2011, 3, .on 27, 7200, .standard⟩⟩,
    ⟨25200, .fixed 0, some ⟨2014, 10, .on 26, 7200, .standard⟩⟩,
    ⟨21600, .fixed 0, some ⟨2016, 5, .on 29, 7200, .standard⟩⟩,
    ⟨25200, .fixed 0, none⟩]

def ulaanbaatar : List Era :=
  [ ⟨25652, .fixed 0, some ⟨1905, 8, .on 1, 0, .wall⟩⟩,
    ⟨25200, .fixed 0, some ⟨1978, 1, .on 1, 0, .wall⟩⟩,
    ⟨28800, .rules Season.mongolia, none⟩]

def urumqi : List Era :=
  [ ⟨21020, .fixed 0, some ⟨1928, 1, .on 1, 0, .wall⟩⟩,
    ⟨21600, .fixed 0, none⟩]

def ustNera : List Era :=
  [ ⟨34374, .fixed 0, some ⟨1919, 12, .on 15, 0, .wall⟩⟩,
    ⟨28800, .fixed 0, some ⟨1930, 6, .on 21, 0, .wall⟩⟩,
    ⟨32400, .rules Season.russia, some ⟨1981, 4, .on 1, 0, .wall⟩⟩,
    ⟨39600, .rules Season.russia, some ⟨1991, 3, .on 31, 7200, .standard⟩⟩,
    ⟨36000, .rules Season.russia, some ⟨1992, 1, .on 19, 7200, .standard⟩⟩,
    ⟨39600, .rules Season.russia, some ⟨2011, 3, .on 27, 7200, .standard⟩⟩,
    ⟨43200, .fixed 0, some ⟨2011, 9, .on 13, 0, .standard⟩⟩,
    ⟨39600, .fixed 0, some ⟨2014, 10, .on 26, 7200, .standard⟩⟩,
    ⟨36000, .fixed 0, none⟩]

def vladivostok : List Era :=
  [ ⟨31651, .fixed 0, some ⟨1922, 11, .on 15, 0, .wall⟩⟩,
    ⟨32400, .fixed 0, some ⟨1930, 6, .on 21, 0, .wall⟩⟩,
    ⟨36000, .rules Season.russia, some ⟨1991, 3, .on 31, 7200, .standard⟩⟩,
    ⟨32400, .rules Season.russia, some ⟨1992, 1, .on 19, 7200, .standard⟩⟩,
    ⟨36000, .rules Season.russia, some ⟨2011, 3, .on 27, 7200, .standard⟩⟩,
    ⟨39600, .fixed 0, some ⟨2014, 10, .on 26, 7200, .standard⟩⟩,
    ⟨36000, .fixed 0, none⟩]

def yakutsk : List Era :=
  [ ⟨31138, .fixed 0, some ⟨1919, 12, .on 15, 0, .wall⟩⟩,
    ⟨28800, .fixed 0, some ⟨1930, 6, .on 21, 0, .wall⟩⟩,
    ⟨32400, .rules Season.russia, some ⟨1991, 3, .on 31, 7200, .standard⟩⟩,
    ⟨28800, .rules Season.russia, some ⟨1992, 1, .on 19, 7200, .standard⟩⟩,
    ⟨32400, .rules Season.russia, some ⟨2011, 3, .on 27, 7200, .standard⟩⟩,
    ⟨36000, .fixed 0, some ⟨2014, 10, .on 26, 7200, .standard⟩⟩,
    ⟨32400, .fixed 0, none⟩]

def yangon : List Era :=
  [ ⟨23087, .fixed 0, some ⟨1880, 1, .on 1, 0, .wall⟩⟩,
    ⟨23087, .fixed 0, some ⟨1920, 1, .on 1, 0, .wall⟩⟩,
    ⟨23400, .fixed 0, some ⟨1942, 5, .on 1, 0, .wall⟩⟩,
    ⟨32400, .fixed 0, some ⟨1945, 5, .on 3, 0, .wall⟩⟩,
    ⟨23400, .fixed 0, none⟩]

def yekaterinburg : List Era :=
  [ ⟨14553, .fixed 0, some ⟨1916, 7, .on 3, 0, .wall⟩⟩,
    ⟨13505, .fixed 0, some ⟨1919, 7, .on 15, 14400, .wall⟩⟩,
    ⟨14400, .fixed 0, some ⟨1930, 6, .on 21, 0, .wall⟩⟩,
    ⟨18000, .rules Season.russia, some ⟨1991, 3, .on 31, 7200, .standard⟩⟩,
    ⟨14400, .rules Season.russia, some ⟨1992, 1, .on 19, 7200, .standard⟩⟩,
    ⟨18000, .rules Season.russia, some ⟨2011, 3, .on 27, 7200, .standard⟩⟩,
    ⟨21600, .fixed 0, some ⟨2014, 10, .on 26, 7200, .standard⟩⟩,
    ⟨18000, .fixed 0, none⟩]

def yerevan : List Era :=
  [ ⟨10680, .fixed 0, some ⟨1924, 5, .on 2, 0, .wall⟩⟩,
    ⟨10800, .fixed 0, some ⟨1957, 3, .on 1, 0, .wall⟩⟩,
    ⟨14400, .rules Season.russia, some ⟨1991, 3, .on 31, 7200, .standard⟩⟩,
    ⟨10800, .rules Season.russia, some ⟨1995, 9, .on 24, 7200, .standard⟩⟩,
    ⟨14400, .fixed 0, some ⟨1997, 1, .on 1, 0, .wall⟩⟩,
    ⟨14400, .rules Season.russia, some ⟨2011, 1, .on 1, 0, .wall⟩⟩,
    ⟨14400, .rules Season.armenia, none⟩]

def all : List (String × List Era) :=
  [ ("Asia/Almaty", almaty),
    ("Asia/Amman", amman),
    ("Asia/Anadyr", anadyr),
    ("Asia/Aqtau", aqtau),
    ("Asia/Aqtobe", aqtobe),
    ("Asia/Ashgabat", ashgabat),
    ("Asia/Atyrau", atyrau),
    ("Asia/Baghdad", baghdad),
    ("Asia/Baku", baku),
    ("Asia/Bangkok", bangkok),
    ("Asia/Barnaul", barnaul),
    ("Asia/Beirut", beirut),
    ("Asia/Bishkek", bishkek),
    ("Asia/Chita", chita),
    ("Asia/Colombo", colombo),
    ("Asia/Damascus", damascus),
    ("Asia/Dhaka", dhaka),
    ("Asia/Dili", dili),
    ("Asia/Dubai", dubai),
    ("Asia/Dushanbe", dushanbe),
    ("Asia/Famagusta", famagusta),
    ("Asia/Gaza", gaza),
    ("Asia/Hebron", hebron),
    ("Asia/Ho_Chi_Minh", hoChiMinh),
    ("Asia/Hong_Kong", hongKong),
    ("Asia/Hovd", hovd),
    ("Asia/Irkutsk", irkutsk),
    ("Asia/Jakarta", jakarta),
    ("Asia/Jayapura", jayapura),
    ("Asia/Jerusalem", jerusalem),
    ("Asia/Kabul", kabul),
    ("Asia/Kamchatka", kamchatka),
    ("Asia/Karachi", karachi),
    ("Asia/Kathmandu", kathmandu),
    ("Asia/Khandyga", khandyga),
    ("Asia/Kolkata", kolkata),
    ("Asia/Krasnoyarsk", krasnoyarsk),
    ("Asia/Kuching", kuching),
    ("Asia/Macau", macau),
    ("Asia/Magadan", magadan),
    ("Asia/Makassar", makassar),
    ("Asia/Manila", manila),
    ("Asia/Nicosia", nicosia),
    ("Asia/Novokuznetsk", novokuznetsk),
    ("Asia/Novosibirsk", novosibirsk),
    ("Asia/Omsk", omsk),
    ("Asia/Oral", oral),
    ("Asia/Pontianak", pontianak),
    ("Asia/Pyongyang", pyongyang),
    ("Asia/Qatar", qatar),
    ("Asia/Qostanay", qostanay),
    ("Asia/Qyzylorda", qyzylorda),
    ("Asia/Riyadh", riyadh),
    ("Asia/Sakhalin", sakhalin),
    ("Asia/Samarkand", samarkand),
    ("Asia/Seoul", seoul),
    ("Asia/Shanghai", shanghai),
    ("Asia/Singapore", singapore),
    ("Asia/Srednekolymsk", srednekolymsk),
    ("Asia/Taipei", taipei),
    ("Asia/Tashkent", tashkent),
    ("Asia/Tbilisi", tbilisi),
    ("Asia/Tehran", tehran),
    ("Asia/Thimphu", thimphu),
    ("Asia/Tokyo", tokyo),
    ("Asia/Tomsk", tomsk),
    ("Asia/Ulaanbaatar", ulaanbaatar),
    ("Asia/Urumqi", urumqi),
    ("Asia/Ust-Nera", ustNera),
    ("Asia/Vladivostok", vladivostok),
    ("Asia/Yakutsk", yakutsk),
    ("Asia/Yangon", yangon),
    ("Asia/Yekaterinburg", yekaterinburg),
    ("Asia/Yerevan", yerevan)]

end Analytics.Zone.Region.Asia
